import TypedTable.Proofs.Except
import TypedTable.Proofs.Grammar

namespace TypedTable

-- Faults of single words, found before there are tokens.
def FilterFault.isLexical : FilterFault → Bool
  | .strayCharacter _ | .unterminated _ | .unknownForm _ | .malformed _ _ => true
  | _ => false

namespace Grammar

variable {ts : List Token} {e : FilterFault}

theorem operand_fault (failed : operand ts = .error e) : e.isLexical = false := by
  unfold operand at failed
  split at failed
  · cases failed
    rfl
  · split at failed
    · cases failed
    · cases failed
      rfl

theorem comparison_fault {op : Comparison} {left right : Operand} (failed : comparison op left right = .error e) :
    e.isLexical = false := by
  unfold comparison at failed
  split at failed
  · cases failed
  · cases failed
  · cases failed
    rfl
  · cases failed
    rfl

theorem lone_fault {left : Operand} (failed : lone left = .error e) : e.isLexical = false := by
  unfold lone at failed
  split at failed
  · cases failed
  · cases failed
  · cases failed
    rfl

theorem simple_fault (failed : simple ts = .error e) : e.isLexical = false := by
  unfold simple at failed
  split at failed
  · rename_i first
    cases failed
    exact operand_fault first
  · split at failed
    · rename_i second
      cases failed
      exact operand_fault second
    · exact comparison_fault (map_failed failed)
  · exact lone_fault (map_failed failed)

-- A chain fails in its next operand or behind it.
theorem extend_failed {op : Connective} {left : Filter} (failed : extend op left ts = .error e) :
    ∃ more, ts = .connective op :: more ∧ (member op more = .error e ∨
      ∃ right rest, rest.length < more.length ∧ extend op (.logical op left right) rest = .error e) := by
  rw [extend.eq_def] at failed
  split at failed
  · rename_i next more
    split at failed
    · rename_i same
      subst same
      refine ⟨more,rfl,?_⟩
      split at failed
      · rename_i first
        cases failed
        exact .inl first
      · rename_i right rest shorter _
        split at failed
        · rename_i continued
          cases failed
          exact .inr ⟨right,rest,shorter,continued⟩
        · cases failed
    · cases failed
  · cases failed

mutual

theorem chain_fault {op : Connective} {ts : List Token} {e : FilterFault} (failed : chain op ts = .error e) :
    e.isLexical = false := by
  rw [chain] at failed
  split at failed
  · rename_i first
    cases failed
    exact member_fault first
  · split at failed
    · rename_i continued
      cases failed
      exact extend_fault continued
    · cases failed
termination_by (ts.length,rank op + 1)

theorem member_fault {op : Connective} {ts : List Token} {e : FilterFault} (failed : member op ts = .error e) :
    e.isLexical = false := by
  cases op with
  | or =>
    rw [member] at failed
    exact chain_fault failed
  | and =>
    rw [member] at failed
    exact negation_fault failed
termination_by (ts.length,rank op)

theorem extend_fault {op : Connective} {left : Filter} {ts : List Token} {e : FilterFault}
    (failed : extend op left ts = .error e) : e.isLexical = false := by
  obtain ⟨more,equal,first | ⟨right,rest,shorter,continued⟩⟩ := extend_failed failed
  · have behind : more.length < ts.length := by rw [equal]; exact Nat.lt_succ_self _
    exact member_fault first
  · have behind : rest.length < ts.length := by rw [equal]; exact Nat.lt_succ_of_lt shorter
    exact extend_fault continued
termination_by (ts.length,0)

theorem negation_fault {ts : List Token} {e : FilterFault} (failed : negation ts = .error e) :
    e.isLexical = false := by
  rw [negation.eq_def] at failed
  split at failed
  · split at failed
    · rename_i inner
      cases failed
      exact negation_fault inner
    · cases failed
  · exact primary_fault failed
termination_by (ts.length,1)

theorem primary_fault {ts : List Token} {e : FilterFault} (failed : primary ts = .error e) :
    e.isLexical = false := by
  rw [primary.eq_def] at failed
  split at failed
  · split at failed
    · rename_i inner
      cases failed
      exact chain_fault inner
    · cases failed
      rfl
    · split at failed
      · cases failed
      · cases failed
        rfl
  · exact simple_fault failed
termination_by (ts.length,0)

end

theorem filter_fault (failed : filter ts = .error e) : e.isLexical = false := by
  unfold filter at failed
  split at failed
  · rename_i whole
    cases failed
    exact chain_fault whole
  · cases failed
  · cases failed
    rfl

end Grammar
end TypedTable
