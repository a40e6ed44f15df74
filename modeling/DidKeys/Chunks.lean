/-! # Cutting a list into pieces

`chunks size l` cuts a list into pieces of `size` elements; the last piece may be shorter.  Hash
functions cut a message into blocks and blocks into words this way, and a mnemonic cuts a row of
bits into groups of eleven. -/

namespace DidKeys

variable {α : Type}

/-- The consecutive pieces of `size + 1` elements of a list. -/
def chunksSucc (size : Nat) : List α → List (List α)
  | [] => []
  | a :: l => (a :: l.take size) :: chunksSucc size (l.drop size)
termination_by l => l.length
decreasing_by
  simp only [List.length_drop, List.length_cons]
  omega

/-- The consecutive pieces of `size` elements of a list, for a positive size. -/
def chunks (size : Nat) (l : List α) : List (List α) := chunksSucc (size - 1) l

theorem flatten_chunksSucc (size : Nat) (l : List α) : (chunksSucc size l).flatten = l := by
  fun_induction chunksSucc size l with
  | case1 => rfl
  | case2 a l ih => simp [ih]

/-- Nothing is lost and nothing moves. -/
@[simp] theorem flatten_chunks (size : Nat) (l : List α) : (chunks size l).flatten = l :=
  flatten_chunksSucc (size - 1) l

end DidKeys
