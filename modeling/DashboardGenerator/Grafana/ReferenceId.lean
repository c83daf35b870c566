/-!
# Reference identifiers of queries

The queries of a panel are called `A`, `B`, …, `Z`, `AA`, `AB`, …: the numerals of the bijective
system of base twenty-six, so that every position has exactly one name.
-/

namespace DashboardGenerator.Grafana

/-- The capital letter of a digit below twenty-six. -/
def referenceLetter (digit : Nat) : Char := Char.ofNat (65 + digit)

/-- The letters of a position that counts from zero. -/
def referenceLetters (position : Nat) : List Char :=
  if position < 26 then [referenceLetter position]
  else referenceLetters (position / 26 - 1) ++ [referenceLetter (position % 26)]
termination_by position
decreasing_by omega

/-- The reference identifier of the query at a position that counts from zero. -/
def referenceId (position : Nat) : String :=
  String.ofList (referenceLetters position)

end DashboardGenerator.Grafana
