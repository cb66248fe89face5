namespace TypedTable
namespace Text

variable {p : Char → Bool} {text rest : List Char}

-- Characters of a kind end where a text starts that does not go on with it.
theorem takeWhile_append (all : text.all p = true) (stops : ∀ c ∈ rest.head?, p c = false) :
    (text ++ rest).takeWhile p = text := by
  rw [List.takeWhile_append_of_pos (List.all_eq_true.mp all)]
  cases rest with
  | nil => exact List.append_nil _
  | cons c more => rw [List.takeWhile_cons_of_neg (by simp [stops c rfl]),List.append_nil]

theorem dropWhile_append (all : text.all p = true) (stops : ∀ c ∈ rest.head?, p c = false) :
    (text ++ rest).dropWhile p = rest := by
  rw [List.dropWhile_append_of_pos (List.all_eq_true.mp all)]
  cases rest with
  | nil => rfl
  | cons c more => rw [List.dropWhile_cons_of_neg (by simp [stops c rfl])]

end Text
end TypedTable
