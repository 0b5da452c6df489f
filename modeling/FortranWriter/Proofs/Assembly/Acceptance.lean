import FortranWriter.Proofs.Assembly.Checks
import FortranWriter.Proofs.Assembly.Labels
import FortranWriter.Proofs.Assembly.Refusals
import FortranWriter.Proofs.Label.Yield
/-! Which trees can be assembled: those in which every statement passes its own checks and for whose
constructs the supply has labels enough, in whatever order the checks are made. -/
namespace FortranWriter.Assembly
open Success LabelSupply

def bodies : Statement → List Statement
  | .ifThen _ body otherwise => body ++ otherwise.getD []
  | .doLoop _ _ _ _ body | .program _ body | .subroutine _ _ body | .function _ _ _ body
  | .openFile _ _ _ body => body
  | _ => []

/-- A statement of a tree, however deep in the bodies of others. -/
inductive Within (s : Statement) : List Statement → Prop
  | here {tree} : s ∈ tree → Within s tree
  | inside {outer tree} : outer ∈ tree → Within s (bodies outer) → Within s tree

def Everywhere (p : Statement → Prop) (tree : List Statement) : Prop :=
  ∀ s, Within s tree → p s

def Sound (tree : List Statement) : Prop :=
  ∀ s, Within s tree → s.Passes

section
variable {s : Statement} {rest body other : List Statement} {p : Statement → Prop}

theorem not_within_nil : ¬ Within s [] := by
  intro h
  cases h with
  | here mem => exact List.not_mem_nil mem
  | inside mem _ => exact List.not_mem_nil mem

theorem within_of_subset {tree : List Statement} (h : Within s body) (sub : body ⊆ tree) :
    Within s tree := by
  cases h with
  | here mem => exact .here (sub mem)
  | inside mem deeper => exact .inside (sub mem) deeper

theorem everywhere_nil : Everywhere p [] :=
  fun _ h => absurd h not_within_nil

theorem everywhere_cons_iff :
    Everywhere p (s :: rest) ↔ p s ∧ Everywhere p (bodies s) ∧ Everywhere p rest := by
  constructor
  · intro h
    refine ⟨h s (.here List.mem_cons_self), fun t within => h t ?_, fun t within => h t ?_⟩
    · exact .inside List.mem_cons_self within
    · exact within_of_subset within (List.subset_cons_self s rest)
  · rintro ⟨first, inside, others⟩ t within
    cases within with
    | here mem =>
        rcases List.mem_cons.mp mem with rfl | mem
        · exact first
        · exact others t (.here mem)
    | inside mem deeper =>
        rcases List.mem_cons.mp mem with rfl | mem
        · exact inside t deeper
        · exact others t (.inside mem deeper)

theorem everywhere_append_iff :
    Everywhere p (body ++ other) ↔ Everywhere p body ∧ Everywhere p other := by
  induction body with
  | nil => exact ⟨fun h => ⟨everywhere_nil, h⟩, And.right⟩
  | cons s body ih => simp only [List.cons_append, everywhere_cons_iff, ih, and_assoc]

theorem sound_nil : Sound [] :=
  everywhere_nil

theorem sound_cons_iff : Sound (s :: rest) ↔ s.Passes ∧ Sound (bodies s) ∧ Sound rest :=
  everywhere_cons_iff

theorem sound_append_iff : Sound (body ++ other) ↔ Sound body ∧ Sound other :=
  everywhere_append_iff

end

theorem bodies_of_leaf? {s : Statement} {made : Except Refusal Text} (view : leaf? s = some made) :
    bodies s = [] := by
  cases s with
  | verbatim | ifThen | doLoop | program | subroutine | function | openFile => cases view
  | call | assign | declare | common | parameter | implicitNone | comment | continueAt | goto
  | ifGoto | returnLine | stop | closeFile | transfer | format => rfl

theorem bodies_of_enclosure? {s : Statement} {body : List Statement}
    {made : Except Refusal (Text × Text)} (view : enclosure? s = some (body, made)) :
    bodies s = body := by
  cases Enclosure.of_view view with
  | ifThen => exact List.append_nil body
  | program | subroutine | function | openFile => rfl

theorem Run.sound {supply after : LabelSupply} {tree : List Statement} {fragments : List Fragment}
    (h : Run supply tree fragments after) : Sound tree := by
  induction h with
  | nil => exact sound_nil
  | leaf view _ ih =>
      rw [sound_cons_iff, bodies_of_leaf? view]
      exact ⟨(exists_leaf_iff view).mp ⟨_, rfl⟩, sound_nil, ih⟩
  | verbatim _ ih => exact sound_cons_iff.mpr ⟨trivial, sound_nil, ih⟩
  | enclosed view _ _ inside ih =>
      rw [sound_cons_iff, bodies_of_enclosure? view]
      exact ⟨(exists_enclosure_iff view).mp ⟨_, rfl⟩, inside, ih⟩
  | divided worded _ _ _ inside opposite ih =>
      rw [sound_cons_iff]
      exact ⟨exists_ifThen_iff.mp ⟨_, worded⟩, sound_append_iff.mpr ⟨inside, opposite⟩, ih⟩
  | loop _ header _ _ inside ih =>
      rw [sound_cons_iff]
      exact ⟨exists_doHeader_iff.mp ⟨_, header⟩, inside, ih⟩
  | formatted _ worded formatted _ ih =>
      rw [sound_cons_iff]
      obtain ⟨single, operands⟩ := exists_transfer_iff.mp ⟨_, worded⟩
      exact ⟨⟨single, operands, exists_format_iff.mp ⟨_, formatted⟩, rfl⟩, sound_nil, ih⟩

theorem Run.yields {supply after : LabelSupply} {tree : List Statement} {fragments : List Fragment}
    (h : Run supply tree fragments after) : supply.Yields (labelledOfAll tree).length after := by
  obtain ⟨found, _, reads⟩ := h.marked
  refine ⟨found.map Mark.opening, ?_, reads.drawn⟩
  rw [List.length_map, ← reads.constructs, List.length_map]

/-- A tree is assembled if its statements pass their checks and the supply has its labels. -/
def Assembles (tree : List Statement) : Prop :=
  ∀ supply after, Sound tree → supply.Yields (labelledOfAll tree).length after →
    ∃ fragments, Run supply tree fragments after

section
variable {s : Statement} {rest body : List Statement}

theorem Assembles.of_leaf? {made : Except Refusal Text} (view : leaf? s = some made)
    (others : Assembles rest) : Assembles (s :: rest) := by
  intro supply after sound yields
  obtain ⟨first, _, behind⟩ := sound_cons_iff.mp sound
  obtain ⟨text, rfl⟩ := (exists_leaf_iff view).mpr first
  rw [labelledOfAll, (marks_of_leaf? view text).2, List.nil_append] at yields
  obtain ⟨fragments, run⟩ := others _ _ behind yields
  exact ⟨_, .leaf view run⟩

theorem Assembles.of_enclosure? {made : Except Refusal (Text × Text)}
    (view : enclosure? s = some (body, made)) (inside : Assembles body) (others : Assembles rest) :
    Assembles (s :: rest) := by
  intro supply after sound yields
  obtain ⟨first, deeper, behind⟩ := sound_cons_iff.mp sound
  obtain ⟨⟨opener, closer⟩, rfl⟩ := (exists_enclosure_iff view).mpr first
  rw [bodies_of_enclosure? view] at deeper
  rw [labelledOfAll, (marks_of_enclosure? view opener closer []).2, List.length_append,
    yields_add_iff] at yields
  obtain ⟨middle, here, there⟩ := yields
  obtain ⟨inner, run⟩ := inside _ _ deeper here
  obtain ⟨fragments, next⟩ := others _ _ behind there
  exact ⟨_, .enclosed view run next⟩

theorem Assembles.of_divided {condition : Text} {other : List Statement} (inside : Assembles body)
    (opposite : Assembles other) (others : Assembles rest) :
    Assembles (.ifThen condition body (some other) :: rest) := by
  intro supply after sound yields
  obtain ⟨first, deeper, behind⟩ := sound_cons_iff.mp sound
  obtain ⟨soundBody, soundOther⟩ := sound_append_iff.mp deeper
  obtain ⟨opener, worded⟩ := exists_ifThen_iff.mpr first
  rw [labelledOfAll, labelled, List.length_append, List.length_append, yields_add_iff] at yields
  obtain ⟨middle, both, there⟩ := yields
  obtain ⟨between, here, opposed⟩ := yields_add_iff.mp both
  obtain ⟨inner, run⟩ := inside _ _ soundBody here
  obtain ⟨second, turn⟩ := opposite _ _ soundOther opposed
  obtain ⟨fragments, next⟩ := others _ _ behind there
  exact ⟨_, .divided worded run turn next⟩

theorem Assembles.of_loop {index : Text} {start finish : Bound} {step : Option Bound}
    (inside : Assembles body) (others : Assembles rest) :
    Assembles (.doLoop index start finish step body :: rest) := by
  intro supply after sound yields
  obtain ⟨first, deeper, behind⟩ := sound_cons_iff.mp sound
  rw [labelledOfAll, labelled, List.length_append, List.length_cons, yields_add_iff] at yields
  obtain ⟨middle, both, there⟩ := yields
  obtain ⟨label, entered, taken, here⟩ := yields_succ_iff.mp both
  obtain ⟨opener, header⟩ := exists_doHeader_iff.mpr first
  obtain ⟨inner, run⟩ := inside _ _ deeper here
  obtain ⟨fragments, next⟩ := others _ _ behind there
  exact ⟨_, .loop taken header run next⟩

theorem Assembles.of_formatted {direction : Wording.Transfer} {unit : Text} {label : Option Text}
    {formats operands : List Text} (others : Assembles rest) :
    Assembles (.transfer direction unit label (some formats) operands :: rest) := by
  intro supply after sound yields
  obtain ⟨⟨single, each, listed, rfl⟩, _, behind⟩ := sound_cons_iff.mp sound
  rw [labelledOfAll, labelled, List.length_append, List.length_singleton, yields_add_iff] at yields
  obtain ⟨middle, here, there⟩ := yields
  obtain ⟨label, taken⟩ := yields_one_iff.mp here
  obtain ⟨opener, worded⟩ := exists_transfer_iff.mpr ⟨single, each⟩
  obtain ⟨closer, formatted⟩ := exists_format_iff.mpr listed
  obtain ⟨fragments, next⟩ := others _ _ behind there
  exact ⟨_, .formatted taken worded formatted next⟩

end

theorem assembles (tree : List Statement) : Assembles tree := by
  cases tree with
  | nil =>
      intro supply after _ yields
      rw [labelledOfAll, List.length_nil, yields_zero_iff] at yields
      subst yields
      exact ⟨[], .nil⟩
  | cons s rest =>
      have others : Assembles rest := assembles rest
      cases s with
      | call | assign | declare | common | parameter | implicitNone | comment | continueAt | goto
      | ifGoto | returnLine | stop | closeFile | format => exact .of_leaf? rfl others
      | verbatim text =>
          intro supply after sound yields
          obtain ⟨fragments, run⟩ := others _ _ (sound_cons_iff.mp sound).2.2 yields
          exact ⟨_, .verbatim run⟩
      | ifThen condition body otherwise =>
          cases otherwise with
          | none => exact .of_enclosure? rfl (assembles body) others
          | some otherwise => exact .of_divided (assembles body) (assembles otherwise) others
      | doLoop index start finish step body => exact .of_loop (assembles body) others
      | program name body => exact .of_enclosure? rfl (assembles body) others
      | subroutine name parameters body => exact .of_enclosure? rfl (assembles body) others
      | function category name parameters body => exact .of_enclosure? rfl (assembles body) others
      | openFile unit file status body => exact .of_enclosure? rfl (assembles body) others
      | transfer direction unit label formats operands =>
          cases formats with
          | none => exact .of_leaf? rfl others
          | some formats => exact .of_formatted others
termination_by sizeOf tree

/-- From an accepted supply a tree is assembled exactly if every statement in it passes its own
checks and the number that the last of its labels would have is a label; otherwise the refusal is
one of an argument of a statement, or says that no label is left. -/
theorem assembled_iff_sound {first step : Nat} {supply : LabelSupply}
    (accepted : LabelSupply.starting first step = .ok supply) (tree : List Statement) :
    ((∃ fragments after, (statements tree).run.run supply = (.ok fragments, after)) ↔
      Sound tree ∧ ((labelledOfAll tree).length = 0 ∨
        first + ((labelledOfAll tree).length - 1) * step ≤ maximumLabel)) ∧
    ∀ refusal after, (statements tree).run.run supply = (.error refusal, after) →
      refusal.OfStatement ∨ refusal = .labelsExhausted := by
  have positive : 1 ≤ first := (starting_eq_ok_iff.mp accepted).1
  have enough : (∃ after, (later first step 0).Yields (labelledOfAll tree).length after) ↔ _ :=
    exists_yields_later_iff positive
  rw [← starting_eq_later accepted, Nat.zero_add] at enough
  refine ⟨?_, fun refusal after refused => confined_statements tree supply refusal after refused⟩
  rw [← enough]
  simp only [← run_iff]
  constructor
  · rintro ⟨fragments, after, run⟩
    exact ⟨run.sound, after, run.yields⟩
  · rintro ⟨sound, after, yields⟩
    obtain ⟨fragments, run⟩ := assembles tree supply after sound yields
    exact ⟨fragments, after, run⟩

theorem sound_nested : Sound nested := by
  simp only [nested, sound_cons_iff, sound_append_iff, sound_nil, bodies, Option.getD_some,
    Statement.Passes, List.forall_mem_singleton, Option.some.injEq, forall_eq', reduceCtorEq,
    false_implies, implies_true, ne_eq, List.cons_ne_nil, not_false_eq_true, true_and, and_true]
  decide

/-- Five labels from 99979 on, with 99999 the last of them, and one more than there are. -/
theorem assembled_iff_sound_nested :
    LabelSupply.starting 99979 5 = .ok ⟨99979, 5⟩ ∧
    (∃ fragments after, (statements nested).run.run ⟨99979, 5⟩ = (.ok fragments, after)) ∧
    LabelSupply.starting 99979 6 = .ok ⟨99979, 6⟩ ∧
    ¬ ∃ fragments after, (statements nested).run.run ⟨99979, 6⟩ = (.ok fragments, after) := by
  have close : LabelSupply.starting 99979 5 = .ok ⟨99979, 5⟩ := rfl
  have wide : LabelSupply.starting 99979 6 = .ok ⟨99979, 6⟩ := rfl
  refine ⟨close, ?_, wide, ?_⟩
  · exact (assembled_iff_sound close nested).1.mpr ⟨sound_nested, .inr (by decide)⟩
  · intro assembled
    have enough := ((assembled_iff_sound wide nested).1.mp assembled).2
    exact absurd enough (by decide)

end FortranWriter.Assembly
