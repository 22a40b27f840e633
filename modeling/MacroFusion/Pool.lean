/-!
# Worker pools

Tasks handed to a pool finish in any order; the pool hands their results out in the order in which
the tasks were submitted.
-/

namespace MacroFusion.Pool

variable {α β : Type}

/-- the results of the tasks of `items`, where `finished` lists the positions of the tasks in the
order in which they finish -/
def map (finished : List Nat) (task : α → β) (items : List α) : List β :=
  let done := finished.filterMap fun i => items[i]?.map fun item => (i, task item)
  (List.range items.length).filterMap fun i => done.lookup i

end MacroFusion.Pool
