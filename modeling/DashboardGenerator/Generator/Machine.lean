import DashboardGenerator.Generator.Run

/-!
# Machines

A machine has a platform and files, and the files are part of the state of a world. It may refuse to
read or to write a file for whatever reason, such as a permission that is missing. All that is asked
of it is that looking changes nothing, and that a write that is refused changes nothing either: one
that fails half way is left out.
-/

namespace DashboardGenerator

/-- What a run takes place on. -/
structure Machine (World : Type) extends Platform where
  access : FileAccess (StateM World)
  isFile_keeps : ∀ path world, ((access.isFile path).run world).2 = world
  read_keeps : ∀ path world, ((access.read path).run world).2 = world
  refusal_keeps : ∀ path content world fault,
    ((access.write path content).run world).1 = .error fault →
      ((access.write path content).run world).2 = world

namespace Machine

variable {World : Type} (machine : Machine World) (world : World)

/-- The path leads to a file. -/
def isFile (path : String) : Bool := ((machine.access.isFile path).run world).1

/-- The bytes of the file at a path. -/
def read (path : String) : Except FileFault (List UInt8) :=
  ((machine.access.read path).run world).1

/-- The world after bytes are written at a path. -/
def write (path : String) (content : List UInt8) : Except FileFault World :=
  ((machine.access.write path content).run world).1.map fun () =>
    ((machine.access.write path content).run world).2

/-- Run the generator: the outcome, and the world afterwards. -/
def run (environment : Environment) : Outcome × World :=
  (DashboardGenerator.run machine.toPlatform machine.access environment).run world

end Machine

/-- The machine whose world is a snapshot of a file system. -/
def Files.machine (platform : Platform) : Machine Files where
  toPlatform := platform
  access := Files.access
  isFile_keeps _ _ := rfl
  read_keeps _ _ := rfl
  refusal_keeps path content files fault := by
    simp only [Files.access, StateT.run_bind, StateT.run_get, pure_bind]
    cases files.write path content with
    | error fault => exact fun _ => rfl
    | ok after => exact nofun

end DashboardGenerator
