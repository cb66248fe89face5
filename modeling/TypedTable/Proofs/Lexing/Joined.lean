import TypedTable.Proofs.Lexing.Extent
import TypedTable.Proofs.Lexing.Spelled

namespace TypedTable
namespace Lexer

-- A token that ends where its text ends is read in front of a boundary too.
theorem token_append {c : Char} {rest tail extra : List Char} {t : Token} (boundary : Boundary extra)
    (read : token c rest = .ok (t,tail)) : token c (rest ++ extra) = .ok (t,tail ++ extra) := by
  obtain ⟨used,rfl,replaced⟩ := token_extent read
  rw [List.append_assoc]
  exact replaced _ (.of_boundary boundary tail)

-- What is read on its own is read in front of a boundary as the same tokens.
theorem lexes_of_tokens {text : List Char} {ts : List Token} (read : tokens text = .ok ts) : Lexes text ts := by
  induction length : text.length using Nat.strong_induction_on generalizing text ts with
  | _ n ih =>
    intro extra boundary
    cases text with
    | nil =>
      rw [tokens_nil] at read
      cases read
      rw [List.nil_append]
      cases tokens extra <;> rfl
    | cons c rest =>
      rw [List.length_cons] at length
      cases blank : isBlank c with
      | true =>
        rw [tokens_blank blank] at read
        rw [List.cons_append,tokens_blank blank]
        exact ih rest.length (by omega) read rfl extra boundary
      | false =>
        cases first : token c rest with
        | error fault =>
          rw [tokens_error blank first] at read
          cases read
        | ok found =>
          obtain ⟨t,tail⟩ := found
          rw [tokens_token blank first] at read
          cases behind : tokens tail with
          | error fault => rw [behind] at read; cases read
          | ok us =>
            rw [behind] at read
            cases read
            have shorter := length_token first
            rw [List.cons_append,tokens_token blank (token_append boundary first),
              ih tail.length (by omega) behind rfl extra boundary]
            exact map_map (tokens extra) [t] us

theorem lexes_of_tokensOf {text : String} {ts : List Token} (read : tokensOf text = .ok ts) :
    Lexes text.toList ts :=
  lexes_of_tokens (tokensOf_parts read)

theorem tokensOf_join {text text' : String} {ts us : List Token} (first : tokensOf text = .ok ts)
    (second : tokensOf text' = .ok us) : tokensOf (text ++ " " ++ text') = .ok (ts ++ us) := by
  refine Lexes.tokensOf ?_
  have joined := (lexes_of_tokensOf first).join (lexes_of_tokensOf second)
  simpa using joined

end Lexer
end TypedTable
