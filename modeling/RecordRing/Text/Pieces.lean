set_option autoImplicit false

namespace RecordRing

/-- The pieces of a text between the places where a character stands. -/
def pieces (text : String) (separator : Char) : List String :=
  (text.toList.splitOn separator).map String.ofList

/-- Where no character other than the separator stands first, some piece is not empty. -/
theorem exists_mem_pieces {text : String} {separator first : Char}
    (head : text.toList.head? = some first) (other : first ≠ separator) :
    ∃ piece ∈ pieces text separator, piece ≠ "" := by
  unfold pieces
  cases characters : text.toList with
  | nil =>
      rw [characters] at head
      cases head
  | cons character rest =>
      rw [characters] at head
      cases head
      rw [List.splitOn_cons_eq_if_modifyHead, if_neg (by simpa using other)]
      cases split : rest.splitOn separator with
      | nil => exact absurd split (List.splitOn_ne_nil separator rest)
      | cons front later =>
          refine ⟨String.ofList (first :: front), List.mem_cons_self, ?_⟩
          intro empty
          have characters := congrArg String.toList empty
          rw [String.toList_ofList] at characters
          cases characters

end RecordRing
