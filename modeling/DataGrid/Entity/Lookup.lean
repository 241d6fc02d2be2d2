import DataGrid.Entity.Basic

/-!
# Lookups

What views and filters ask about entities that they were not given.

## Main definitions

* `OptionSet`: the sets of options
* `Lookup`: portfolios by id, and the options of a set
* `EntityStore`, `EntityStore.lookup`: entities in memory, and the lookup in them
-/

namespace DataGrid

/-- **Option set.** -/
inductive OptionSet where
  | portfolioEntryTypes
  | orgUnits
  | portfolios
  | lifeCycleMilestones
  | lifeCycleProcesses
  | reportStatusTypes
  deriving Repr, DecidableEq

/-- **Lookup.** -/
structure Lookup where
  portfolio? : Int64 → Option Portfolio
  options : OptionSet → List Choice

/-- **Entities in memory.** The later of two portfolios with one id counts, and so does the
later of two lists of options for one set. -/
structure EntityStore where
  portfolios : List Portfolio := []
  options : List (OptionSet × List Choice) := []

namespace EntityStore

/-- The store with one more portfolio. -/
def withPortfolio (p : Portfolio) (s : EntityStore) : EntityStore :=
  { s with portfolios := s.portfolios ++ [p] }

/-- The store with options for a set. -/
def withOptions (set : OptionSet) (choices : List Choice) (s : EntityStore) : EntityStore :=
  { s with options := s.options ++ [(set, choices)] }

/-- The lookup in a store. -/
def lookup (s : EntityStore) : Lookup where
  portfolio? id := s.portfolios.reverse.find? (·.id == id)
  options set := ((s.options.reverse.find? (·.1 == set)).map Prod.snd).getD []

end EntityStore

end DataGrid
