import FortranWriter.Delivery
import FortranWriter.Host.World
/-! Programs on a machine that is a value: what a sequence does, and each call. -/
namespace FortranWriter.World

section Sequences
variable {α β : Type} (world : World)

@[simp] theorem run_bind (x : StateM World α) (f : α → StateM World β) :
    (x >>= f).run world = (f (x.run world).1).run (x.run world).2 := rfl

@[simp] theorem run_pure (a : α) : (pure a : StateM World α).run world = (a, world) := rfl

@[simp] theorem run_get : (get : StateM World World).run world = (world, world) := rfl

@[simp] theorem run_modify (f : World → World) :
    (modify f : StateM World PUnit).run world = (⟨⟩, f world) := rfl

end Sequences

def noted (world : World) (record : Log.Record) : World :=
  world.complain (Text.bytes (world.shown record))

section Calls
variable (world : World) (path words : Text)

@[simp] theorem run_readFile :
    (Host.readFile path : StateM World (Except FileFault ByteArray)).run world =
      (world.tree.read path, world) := rfl

@[simp] theorem run_isPresent :
    (Host.isPresent path : StateM World Bool).run world = (world.tree.isPresent path, world) := rfl

@[simp] theorem run_isDirectory :
    (Host.isDirectory path : StateM World Bool).run world = (world.tree.isDirectory path, world) :=
  rfl

@[simp] theorem run_note (record : Log.Record) :
    (Host.note record : StateM World Unit).run world = ((), world.noted record) := rfl

@[simp] theorem run_print (content : ByteArray) :
    (Host.print content : StateM World Unit).run world = ((), world.print content) := rfl

@[simp] theorem run_complain :
    (Host.complain words : StateM World Unit).run world =
      ((), world.complain (Text.bytes words)) := rfl

@[simp] theorem run_startLog (setting : Log.Setting) :
    (Host.startLog setting : StateM World Unit).run world =
      ((), { world with log := some setting }) := rfl

theorem run_call_of_ok {α : Type} {f : FileTree → Except FileFault (α × FileTree)} {a : α}
    {tree : FileTree} (h : f world.tree = .ok (a, tree)) :
    (call f).run world = (.ok a, { world with tree }) := by
  change call f world = _
  rw [call, h]

theorem run_call_of_error {α : Type} {f : FileTree → Except FileFault (α × FileTree)}
    {fault : FileFault} (h : f world.tree = .error fault) :
    (call f).run world = (.error fault, world) := by
  change call f world = _
  rw [call, h]

end Calls

/-- What a program returns and does to the files is told by the files alone. -/
def Looks {α : Type} (x : StateM World α) : Prop :=
  ∀ a b : World, a.tree = b.tree →
    (x.run a).1 = (x.run b).1 ∧ (x.run a).2.tree = (x.run b).2.tree

section Looking
variable {α β : Type}

theorem looks_bind {x : StateM World α} {f : α → StateM World β} (first : Looks x)
    (rest : ∀ a, Looks (f a)) : Looks (x >>= f) := by
  intro a b same
  obtain ⟨result, tree⟩ := first a b same
  rw [run_bind, run_bind, result]
  exact rest _ _ _ tree

theorem looks_pure (a : α) : Looks (pure a) :=
  fun _ _ same => ⟨rfl, same⟩

theorem looks_note (record : Log.Record) : Looks (Host.note record : StateM World Unit) :=
  fun _ _ same => ⟨rfl, same⟩

theorem looks_isPresent (path : Text) : Looks (Host.isPresent path : StateM World Bool) :=
  fun _ _ same => ⟨congrArg (FileTree.isPresent · path) same, same⟩

theorem looks_isDirectory (path : Text) : Looks (Host.isDirectory path : StateM World Bool) :=
  fun _ _ same => ⟨congrArg (FileTree.isDirectory · path) same, same⟩

theorem looks_call (f : FileTree → Except FileFault (α × FileTree)) : Looks (call f) := by
  intro a b same
  cases made : f b.tree with
  | error fault =>
      rw [run_call_of_error a (by rw [same, made]), run_call_of_error b made]
      exact ⟨rfl, same⟩
  | ok outcome =>
      obtain ⟨result, tree⟩ := outcome
      rw [run_call_of_ok a (by rw [same, made]), run_call_of_ok b made]
      exact ⟨rfl, rfl⟩

end Looking

end FortranWriter.World
