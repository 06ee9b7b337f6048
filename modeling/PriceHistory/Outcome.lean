import PriceHistory.Provider.Basic

/-!
What a query leaves behind: its result, the contents of the store, and the requests made of the
provider. Requests and contents are kept when the query fails.
-/
namespace PriceHistory

/-- The outcome of a query over a store with contents in `σ`. -/
structure Outcome (σ α : Type) where
  result : Except Failure α
  store : σ
  requests : List Request

namespace Outcome

variable {σ α β : Type}

/-- A query answered without a request and without a write. -/
def quiet (result : Except Failure α) (s : σ) : Outcome σ α :=
  ⟨result, s, []⟩

/-- The outcome with its result put into another form. -/
def map (f : α → β) (outcome : Outcome σ α) : Outcome σ β :=
  ⟨outcome.result.map f, outcome.store, outcome.requests⟩

end Outcome

end PriceHistory
