import FortranWriter.Proofs.Assembly.Printer
import FortranWriter.Proofs.Assembly.Run
import FortranWriter.Proofs.Wording.Lines
/-! Assembled fragments, once they are flattened, are what the printer puts out in its one pass. -/
namespace FortranWriter.OnePass
open Assembly Success

theorem text_of_parse {given : Text} {label : Label} (h : Label.parse given = .ok label) :
    label.text = numeral given := by
  rw [Label.text, numeral, (Label.parse_eq_ok_iff.mp h).2]

theorem labelClause_of_optionalLabel {given : Option Text} {label : Option Label}
    (h : optionalLabel given = .ok label) :
    Wording.labelClause ", ".toList [] label =
      given.elim [] fun given => ", ".toList ++ numeral given := by
  cases given with
  | none =>
      cases h
      rfl
  | some given =>
      obtain ⟨label, parsed, rfl⟩ := map_eq_ok_iff.mp h
      rw [Wording.labelClause, text_of_parse parsed, List.append_nil]
      rfl

theorem oneLine_of_leaf? {s : Statement} {t : Text} (view : leaf? s = some (.ok t)) :
    t.OneLine := by
  cases s with
  | call => exact Wording.oneLine_of_call (Option.some.inj view)
  | assign => exact Wording.oneLine_of_assign (Option.some.inj view)
  | declare => exact Wording.oneLine_of_declare (Option.some.inj view)
  | common => exact Wording.oneLine_of_common (Option.some.inj view)
  | parameter => exact Wording.oneLine_of_parameter (Option.some.inj view)
  | comment => exact Wording.oneLine_of_comment (Option.some.inj view)
  | closeFile => exact Wording.oneLine_of_closeFile (Option.some.inj view)
  | implicitNone | returnLine | stop =>
      cases view
      exact ⟨rfl, rfl⟩
  | continueAt =>
      obtain ⟨label, _, rfl⟩ := map_eq_ok_iff.mp (Option.some.inj view)
      exact Wording.oneLine_continueAt label
  | goto =>
      obtain ⟨label, _, rfl⟩ := map_eq_ok_iff.mp (Option.some.inj view)
      exact Wording.oneLine_goto label
  | ifGoto =>
      obtain ⟨_, _, worded⟩ := bind_eq_ok_iff.mp (Option.some.inj view)
      exact Wording.oneLine_of_ifGoto worded
  | format =>
      obtain ⟨_, _, worded⟩ := bind_eq_ok_iff.mp (Option.some.inj view)
      exact Wording.oneLine_of_format worded
  | transfer direction unit label formats operands =>
      cases formats with
      | none =>
          obtain ⟨_, _, worded⟩ := bind_eq_ok_iff.mp (Option.some.inj view)
          exact Wording.oneLine_of_transfer worded
      | some formats => cases view
  | verbatim | ifThen | doLoop | program | subroutine | function | openFile => cases view

/-- What takes one line is printed as that line, with the text that its wording has. -/
theorem print_of_leaf? {s : Statement} {t : Text} (view : leaf? s = some (.ok t)) (depth : Nat) :
    print depth s = pure [plain depth t] := by
  cases s with
  | call =>
      obtain ⟨_, _, rfl⟩ := Wording.call_eq_ok_iff.mp (Option.some.inj view)
      rw [print]
  | assign =>
      obtain ⟨_, _, rfl⟩ := Wording.assign_eq_ok_iff.mp (Option.some.inj view)
      rw [print]
  | declare =>
      obtain ⟨_, _, _, _, rfl⟩ := Wording.declare_eq_ok_iff.mp (Option.some.inj view)
      rw [print]
  | common =>
      obtain ⟨_, _, _, rfl⟩ := Wording.common_eq_ok_iff.mp (Option.some.inj view)
      rw [print]
  | parameter =>
      obtain ⟨_, _, rfl⟩ := Wording.parameter_eq_ok_iff.mp (Option.some.inj view)
      rw [print]
  | comment =>
      obtain ⟨_, rfl⟩ := Wording.comment_eq_ok_iff.mp (Option.some.inj view)
      rw [print]
  | closeFile =>
      obtain ⟨_, rfl⟩ := Wording.closeFile_eq_ok_iff.mp (Option.some.inj view)
      rw [print]
  | implicitNone | returnLine | stop =>
      cases view
      rw [print]
      rfl
  | continueAt =>
      obtain ⟨label, parsed, rfl⟩ := map_eq_ok_iff.mp (Option.some.inj view)
      rw [print, Wording.continueAt, text_of_parse parsed]
  | goto =>
      obtain ⟨label, parsed, rfl⟩ := map_eq_ok_iff.mp (Option.some.inj view)
      rw [print, ← text_of_parse parsed]
      rfl
  | ifGoto =>
      obtain ⟨_, parsed, worded⟩ := bind_eq_ok_iff.mp (Option.some.inj view)
      obtain ⟨_, rfl⟩ := Wording.ifGoto_eq_ok_iff.mp worded
      rw [print, text_of_parse parsed]
  | format =>
      obtain ⟨_, parsed, worded⟩ := bind_eq_ok_iff.mp (Option.some.inj view)
      obtain ⟨_, _, rfl⟩ := Wording.format_eq_ok_iff.mp worded
      rw [print, text_of_parse parsed]
  | transfer direction unit label formats operands =>
      cases formats with
      | none =>
          obtain ⟨_, parsed, worded⟩ := bind_eq_ok_iff.mp (Option.some.inj view)
          obtain ⟨_, _, rfl⟩ := Wording.transfer_eq_ok_iff.mp worded
          rw [print, labelClause_of_optionalLabel parsed]
      | some formats => cases view
  | verbatim | ifThen | doLoop | program | subroutine | function | openFile => cases view

/-- The ends of a construct are those of a frame, and each takes one line. -/
structure Ends (frame : Frame) (tail opener closer : Text) : Prop where
  opener_eq : opener = frame.heading ++ tail
  closer_eq : closer = frame.closer
  opener_oneLine : opener.OneLine
  closer_oneLine : closer.OneLine

theorem ends_of_ifThen {condition opener : Text} (h : Wording.ifThen condition = .ok opener) :
    Ends .conditional (condition ++ ") then".toList) opener Wording.endIf := by
  refine ⟨?_, rfl, Wording.oneLine_of_ifThen h, ⟨rfl, rfl⟩⟩
  rw [(Wording.ifThen_eq_ok_iff.mp h).2, List.append_assoc]
  rfl

theorem ends_of_program {name opener : Text} (h : Wording.program name = .ok opener) :
    Ends .program name opener Wording.finish :=
  ⟨(Wording.program_eq_ok_iff.mp h).2, rfl, Wording.oneLine_of_program h, ⟨rfl, rfl⟩⟩

theorem ends_of_subroutine {name opener : Text} {parameters : List Text}
    (h : Wording.subroutine name parameters = .ok opener) :
    Ends .subroutine (name ++ "(".toList ++ Argument.join parameters ++ ")".toList) opener
      Wording.finish := by
  refine ⟨?_, rfl, Wording.oneLine_of_subroutine h, ⟨rfl, rfl⟩⟩
  rw [(Wording.subroutine_eq_ok_iff.mp h).2.2]
  simp only [List.append_assoc]
  rfl

theorem ends_of_function {category name opener : Text} {parameters : List Text}
    (h : Wording.function category name parameters = .ok opener) :
    Ends (.function category) (name ++ "(".toList ++ Argument.join parameters ++ ")".toList) opener
      Wording.finish := by
  refine ⟨?_, rfl, Wording.oneLine_of_function h, ⟨rfl, rfl⟩⟩
  rw [(Wording.function_eq_ok_iff.mp h).2.2.2]
  change _ = category ++ " function ".toList ++ _
  simp only [List.append_assoc]

/-- Both ends of an open file name the same unit. -/
theorem ends_of_openFile {unit file opener closer : Text} {status : Option Text}
    (h : Wording.openFile unit file status = .ok opener)
    (closed : Wording.closeFile unit = .ok closer) :
    Ends (.file unit) (Literal.quote file ++ ", status=".toList ++
      Literal.quote (status.getD Wording.defaultStatus) ++ ")".toList) opener closer := by
  refine ⟨?_, (Wording.closeFile_eq_ok_iff.mp closed).2, Wording.oneLine_of_openFile h,
    Wording.oneLine_of_closeFile closed⟩
  rw [(Wording.openFile_eq_ok_iff.mp h).2.2.2]
  change _ = "open(unit=".toList ++ unit ++ ", file=".toList ++ _
  simp only [List.append_assoc]

/-- The header of a loop and the line that closes it carry the label of the loop. -/
theorem ends_of_doHeader {label : Label} {index opener : Text} {start finish : Bound}
    {step : Option Bound} (h : Wording.doHeader (some label) index start finish step = .ok opener) :
    Ends (.loop label.text) (index ++ " = ".toList ++ start.shown ++ ", ".toList ++ finish.shown ++
      Wording.stepText step) opener (Wording.continueAt label) := by
  refine ⟨?_, rfl, Wording.oneLine_of_doHeader h, Wording.oneLine_continueAt label⟩
  obtain ⟨_, s, started, f, finished, c, stepped, rfl⟩ := Wording.doHeader_eq_ok_iff.mp h
  rw [(Bound.eq_shown_of_render started).1, (Bound.eq_shown_of_render finished).1,
    (Wording.eq_stepText_of_stepClause stepped).1]
  change _ = "do ".toList ++ label.text ++ " ".toList ++ _
  simp only [Wording.labelClause, List.nil_append, List.append_assoc]
  rfl

/-- A construct without a label prints its body one level deeper between its ends. -/
theorem print_of_enclosure? {s : Statement} {body : List Statement} {opener closer : Text}
    (view : enclosure? s = some (body, .ok (opener, closer))) :
    ∃ frame tail, Ends frame tail opener closer ∧
      ∀ depth, print depth s = around depth frame tail <$> printAll (depth + 1) body := by
  generalize ends : Except.ok (opener, closer) = made at view
  cases Enclosure.of_view view with
  | ifThen =>
      obtain ⟨_, worded, ⟨⟩⟩ := map_eq_ok_iff.mp ends.symm
      exact ⟨.conditional, _, ends_of_ifThen worded, fun depth => by rw [print]; rfl⟩
  | program =>
      obtain ⟨_, worded, ⟨⟩⟩ := map_eq_ok_iff.mp ends.symm
      exact ⟨.program, _, ends_of_program worded, fun depth => by rw [print]; rfl⟩
  | subroutine =>
      obtain ⟨_, worded, ⟨⟩⟩ := map_eq_ok_iff.mp ends.symm
      exact ⟨.subroutine, _, ends_of_subroutine worded, fun depth => by rw [print]; rfl⟩
  | function category =>
      obtain ⟨_, worded, ⟨⟩⟩ := map_eq_ok_iff.mp ends.symm
      exact ⟨.function category, _, ends_of_function worded, fun depth => by rw [print]; rfl⟩
  | openFile unit =>
      obtain ⟨_, worded, behind⟩ := bind_eq_ok_iff.mp ends.symm
      obtain ⟨_, closed, ⟨⟩⟩ := map_eq_ok_iff.mp behind
      exact ⟨.file unit, _, ends_of_openFile worded closed, fun depth => by rw [print]; rfl⟩

section Lines
variable {opener between closer : Text} (first : opener.OneLine) (last : closer.OneLine)
    (depth : Nat)
include first last

theorem linesAt_enclose (inner : List Fragment) :
    (Construct.enclose opener inner closer).linesAt depth =
      ⟨depth, opener⟩ :: Fragment.linesOfAll (depth + 1) inner ++ [⟨depth, closer⟩] := by
  rw [Construct.enclose, Fragment.linesAt]
  simp only [Part.linesOfAll, Part.linesAt, List.append_nil]
  rw [Line.ofText_of_oneLine first, Line.ofText_of_oneLine last]
  rfl

theorem linesAt_divided (divider : between.OneLine) (inner other : List Fragment) :
    Fragment.linesAt depth
        (.block [.line opener, .body inner, .line between, .body other, .line closer]) =
      ⟨depth, opener⟩ :: Fragment.linesOfAll (depth + 1) inner ++
        ⟨depth, between⟩ :: Fragment.linesOfAll (depth + 1) other ++ [⟨depth, closer⟩] := by
  rw [Fragment.linesAt]
  simp only [Part.linesOfAll, Part.linesAt, List.append_nil]
  rw [Line.ofText_of_oneLine first, Line.ofText_of_oneLine last, Line.ofText_of_oneLine divider]
  simp only [List.cons_append, List.nil_append, List.append_assoc]

theorem linesAt_pair : Fragment.linesAt depth (.block [.line opener, .line closer]) =
    [⟨depth, opener⟩, ⟨depth, closer⟩] := by
  rw [Fragment.linesAt]
  simp only [Part.linesOfAll, Part.linesAt, List.append_nil]
  rw [Line.ofText_of_oneLine first, Line.ofText_of_oneLine last]
  rfl

end Lines

theorem oneLine_otherwise : Wording.otherwise.OneLine :=
  ⟨rfl, rfl⟩

/-- Flattened lines are the printed ones, and these nest. -/
structure Agrees (depth : Nat) (lines : List Line) (printed : List Printed) : Prop where
  lines_eq : lines = printed.map Printed.line
  nests : Nests depth printed

namespace Agrees
variable {depth : Nat}

theorem append {front back : List Line} {these those : List Printed}
    (first : Agrees depth front these) (second : Agrees depth back those) :
    Agrees depth (front ++ back) (these ++ those) :=
  ⟨by rw [List.map_append, first.lines_eq, second.lines_eq], first.nests.append second.nests⟩

theorem texts (depth : Nat) (ts : List Text) :
    Agrees depth (ts.map (Line.mk depth)) (ts.map (plain depth)) :=
  ⟨by rw [List.map_map]; rfl, nests_plain depth ts⟩

theorem ofText {t : Text} (h : t.OneLine) : Agrees depth (Line.ofText depth t) [plain depth t] := by
  rw [Line.ofText_of_oneLine h]
  exact texts depth [t]

theorem enclose {frame : Frame} {tail opener closer : Text} {inner : List Fragment}
    {printed : List Printed} (ends : Ends frame tail opener closer)
    (inside : Agrees (depth + 1) (Fragment.linesOfAll (depth + 1) inner) printed) :
    Agrees depth ((Construct.enclose opener inner closer).linesAt depth)
      (around depth frame tail printed) := by
  refine ⟨?_, inside.nests.around frame tail⟩
  rw [linesAt_enclose ends.opener_oneLine ends.closer_oneLine, inside.lines_eq, ends.opener_eq,
    ends.closer_eq, around, List.map_append, List.map_cons]
  rfl

theorem divided {tail opener : Text} {inner other : List Fragment} {these those : List Printed}
    (ends : Ends .conditional tail opener Wording.endIf)
    (inside : Agrees (depth + 1) (Fragment.linesOfAll (depth + 1) inner) these)
    (opposite : Agrees (depth + 1) (Fragment.linesOfAll (depth + 1) other) those) :
    Agrees depth (Fragment.linesAt depth (.block [.line opener, .body inner,
        .line Wording.otherwise, .body other, .line Wording.endIf]))
      (around depth .conditional tail (these ++ ⟨.divides, ⟨depth, "else".toList⟩⟩ :: those)) := by
  refine ⟨?_, inside.nests.divided opposite.nests tail⟩
  rw [linesAt_divided ends.opener_oneLine ends.closer_oneLine depth oneLine_otherwise,
    inside.lines_eq, opposite.lines_eq, ends.opener_eq, around]
  simp only [List.map_append, List.map_cons, List.cons_append, List.append_assoc]
  rfl

theorem verbatim (t : Text) : Agrees depth ((Fragment.ofText t).linesAt depth)
    ((t.lines.filter fun line => !Text.isAllBlank line).map (plain depth)) := by
  rw [Fragment.linesAt_ofText]
  exact texts depth _

theorem formatted {statement format : Text} (first : statement.OneLine) (second : format.OneLine) :
    Agrees depth (Fragment.linesAt depth (.block [.line statement, .line format]))
      [plain depth statement, plain depth format] := by
  rw [linesAt_pair first second]
  exact texts depth [statement, format]

end Agrees

section Passes
variable {α β : Type} {supply after : LabelSupply} {x : StateM LabelSupply α} {a : α}

theorem run_bind_of_run (h : x.run supply = (a, after)) (f : α → StateM LabelSupply β) :
    (x >>= f).run supply = (f a).run after := by
  rw [StateT.run_bind, h]
  rfl

theorem run_map_of_run (h : x.run supply = (a, after)) (f : α → β) :
    (f <$> x).run supply = (f a, after) := by
  rw [StateT.run_map, h]
  rfl

theorem run_nextLabel {label : Label} (taken : supply.take = .ok (label, after)) :
    nextLabel.run supply = (label.text, after) := by
  obtain ⟨number, rfl⟩ := LabelSupply.take_eq_ok_iff.mp taken
  rw [Label.text, number]
  rfl

end Passes

/-- A tree is printed as its fragments flatten, and both leave the supply at the same label. -/
def Prints (depth : Nat) (supply : LabelSupply) (tree : List Statement) (fragments : List Fragment)
    (after : LabelSupply) : Prop :=
  ∃ printed, (printAll depth tree).run supply = (printed, after) ∧
    Agrees depth (Fragment.linesOfAll depth fragments) printed

theorem Prints.cons {depth : Nat} {supply middle after : LabelSupply} {s : Statement}
    {rest : List Statement} {f : Fragment} {fragments : List Fragment} (first : List Printed)
    (ran : (print depth s).run supply = (first, middle))
    (agrees : Agrees depth (f.linesAt depth) first)
    (behind : Prints depth middle rest fragments after) :
    Prints depth supply (s :: rest) (f :: fragments) after := by
  obtain ⟨others, passed, there⟩ := behind
  refine ⟨first ++ others, ?_, ?_⟩
  · rw [printAll, run_bind_of_run ran, run_bind_of_run passed]
    rfl
  · rw [Fragment.linesOfAll]
    exact agrees.append there

theorem prints_of_run {supply after : LabelSupply} {tree : List Statement}
    {fragments : List Fragment} (h : Run supply tree fragments after) (depth : Nat) :
    Prints depth supply tree fragments after := by
  induction h generalizing depth with
  | nil => exact ⟨[], rfl, rfl, nests_nil depth⟩
  | leaf view _ ih =>
      refine .cons _ ?_ (.ofText (oneLine_of_leaf? view)) (ih depth)
      rw [print_of_leaf? view]
      rfl
  | verbatim _ ih =>
      refine .cons _ ?_ (.verbatim _) (ih depth)
      rw [print]
      rfl
  | enclosed view _ _ inside ih =>
      obtain ⟨frame, tail, ends, prints⟩ := print_of_enclosure? view
      obtain ⟨printed, ran, agrees⟩ := inside (depth + 1)
      refine .cons _ ?_ (agrees.enclose ends) (ih depth)
      rw [prints, run_map_of_run ran]
  | divided worded _ _ _ inside opposite ih =>
      obtain ⟨these, ran, agrees⟩ := inside (depth + 1)
      obtain ⟨those, passed, others⟩ := opposite (depth + 1)
      refine .cons _ ?_ (agrees.divided (ends_of_ifThen worded) others) (ih depth)
      rw [print, run_bind_of_run ran, run_bind_of_run passed]
      rfl
  | loop taken header _ _ inside ih =>
      obtain ⟨printed, ran, agrees⟩ := inside (depth + 1)
      refine .cons _ ?_ (agrees.enclose (ends_of_doHeader header)) (ih depth)
      rw [print, run_bind_of_run (run_nextLabel taken), run_bind_of_run ran]
      rfl
  | formatted taken worded formatted _ ih =>
      have first := Wording.oneLine_of_transfer worded
      have second := Wording.oneLine_of_format formatted
      refine .cons _ ?_ (.formatted first second) (ih depth)
      obtain ⟨_, _, rfl⟩ := Wording.transfer_eq_ok_iff.mp worded
      obtain ⟨_, _, rfl⟩ := Wording.format_eq_ok_iff.mp formatted
      rw [print, run_bind_of_run (run_nextLabel taken)]
      simp only [Wording.labelClause, List.append_nil, List.append_assoc]
      rfl

theorem lines_eq_flatMap (fragments : List Fragment) :
    fragments.flatMap Fragment.lines = Fragment.linesOfAll 0 fragments :=
  (Fragment.linesOfAll_eq_flatMap 0 fragments).symm

/-- Assembled fragments flatten to what a single walk over the tree prints, from the same supply;
and the walk opens and closes constructs properly, wherever it is stopped. -/
theorem lines_eq_printed {tree : List Statement} {supply after : LabelSupply}
    {fragments : List Fragment}
    (assembled : (statements tree).run.run supply = (.ok fragments, after)) :
    ∃ printed, (printAll 0 tree).run supply = (printed, after) ∧
      fragments.flatMap Fragment.lines = printed.map Printed.line ∧
      printed.foldlM nest? [] = some [] ∧
      ∀ front, front <+: printed → ∃ standing, front.foldlM nest? [] = some standing := by
  obtain ⟨printed, ran, agrees⟩ := prints_of_run (Run.of_statements tree assembled) 0
  refine ⟨printed, ran, (lines_eq_flatMap fragments).trans agrees.lines_eq, agrees.nests [] rfl, ?_⟩
  exact fun front cut => agrees.nests.of_prefix cut rfl

/-- A file that is open around lines of text, and a loop on one side of a condition. -/
def manifold : List Statement :=
  [.program "p".toList
    [.openFile "1".toList "a.txt".toList none [.verbatim "x = 1\n\n  y = 2\n".toList],
      .ifThen "x > y".toList [.stop]
        (some [.doLoop "i".toList (.integer 1) (.expression " n ".toList) none
          [.call "step".toList ["i".toList]]])]]

theorem lines_eq_printed_manifold :
    ∃ fragments, (statements manifold).run.run ⟨10, 10⟩ = (.ok fragments, ⟨20, 10⟩) ∧
      fragments.flatMap Fragment.lines =
        [⟨0, "program p".toList⟩,
          ⟨1, "open(unit=1, file='a.txt', status='unknown')".toList⟩,
          ⟨2, "x = 1".toList⟩,
          ⟨2, "  y = 2".toList⟩,
          ⟨1, "close(unit=1)".toList⟩,
          ⟨1, "if (x > y) then".toList⟩,
          ⟨2, "stop".toList⟩,
          ⟨1, "else".toList⟩,
          ⟨2, "do 10 i = 1, n".toList⟩,
          ⟨3, "call step(i)".toList⟩,
          ⟨2, "10 continue".toList⟩,
          ⟨1, "end if".toList⟩,
          ⟨0, "end".toList⟩] := by
  have assembled : ∃ fragments,
      (statements manifold).run.run ⟨10, 10⟩ = (.ok fragments, ⟨20, 10⟩) := ⟨_, rfl⟩
  obtain ⟨fragments, assembled⟩ := assembled
  obtain ⟨printed, ran, flattened, _⟩ := lines_eq_printed assembled
  have walked : printed = ((printAll 0 manifold).run ⟨10, 10⟩).1 := (congrArg Prod.fst ran).symm
  rw [walked] at flattened
  exact ⟨fragments, assembled, flattened⟩

end FortranWriter.OnePass
