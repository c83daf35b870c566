import DashboardGenerator.Config.Path

/-!
# The order of keys

The keys of a table are visited in an order that the table does not fix: it may differ from place to
place and from run to run. It is given by ranks of the keys, the least first; keys of the same rank
are visited as they are listed.
-/

namespace DashboardGenerator.Config

variable {α : Type}

/-- Put an entry in front of the first one that does not come before it. -/
def insertRanked (rank : String → Nat) (entry : String × α) : List (String × α) → List (String × α)
  | [] => [entry]
  | first :: rest =>
    if rank entry.1 ≤ rank first.1 then entry :: first :: rest
    else first :: insertRanked rank entry rest

/-- The entries in the order of the ranks of their keys. -/
def arrange (rank : String → Nat) : List (String × α) → List (String × α)
  | [] => []
  | entry :: rest => insertRanked rank entry (arrange rank rest)

/-- The order in which the keys of each table are visited: their ranks, for the steps that lead to
the table. -/
structure Order where
  rank : List Step → String → Nat

namespace Order

/-- Keys are visited as they are listed. -/
def listed : Order := ⟨fun _ _ => 0⟩

/-- The order as it is seen from the value that a step leads to. -/
def below (order : Order) (step : Step) : Order := ⟨fun steps => order.rank (step :: steps)⟩

/-- The entries of a table in the order in which they are visited. -/
def visited (order : Order) (entries : List (String × α)) : List (String × α) :=
  arrange (order.rank []) entries

end Order

end DashboardGenerator.Config
