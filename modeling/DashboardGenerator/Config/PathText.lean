import DashboardGenerator.Config.Path
import DashboardGenerator.Config.Value
import DashboardGenerator.Toml.Writer

/-!
# Writing paths

A path as the text of a key. In front of every key but the root stands a point, and an index stands
between brackets. `Step.IsSpelled` says which steps are read back from their text.
-/

namespace DashboardGenerator.Config

/-- The step as it stands in a key behind the root. -/
def Step.spelled : Step → List Char
  | .key name => '.' :: name.toList
  | .index position => '[' :: (integerText position).toList ++ [']']

/-- The key that stands for the path. -/
def Path.text (path : Path) : String :=
  String.ofList (path.root.toList ++ path.steps.flatMap Step.spelled)

/-- The path with its root as the first step. -/
def Path.allSteps (path : Path) : List Step :=
  .key path.root :: path.steps

/-- The least index that is not read, since it does not fit into sixty-three bits. -/
def indexLimit : Nat := Nat.pow 2 63

/-- The step is a word, or an index from the start of its array that is read. -/
def Step.IsSpelled : Step → Prop
  | .key name => Toml.IsBareKey name
  | .index position => 0 ≤ position ∧ position < indexLimit

instance (step : Step) : Decidable step.IsSpelled :=
  match step with
  | .key name => inferInstanceAs (Decidable (Toml.IsBareKey name))
  | .index position => inferInstanceAs (Decidable (0 ≤ position ∧ position < indexLimit))

end DashboardGenerator.Config
