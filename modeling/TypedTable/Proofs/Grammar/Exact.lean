import Mathlib.Logic.ExistsUnique
import TypedTable.Proofs.Except
import TypedTable.Proofs.Grammar

namespace TypedTable
namespace Grammar

variable {op : Connective} {ts more rest tail : List Token} {f g whole : Filter}

-- What stands in front of the rest spells the filter.
def Takes (rule : Rule) (ts : List Token) (f : Filter) (rest : List Token) : Prop :=
  ∃ used, ts = used ++ rest ∧ Derives rule used f

theorem Takes.single (first : Takes (.operand op) ts f rest) : Takes (.chain op) ts f rest := by
  obtain ⟨used,split,derives⟩ := first
  exact ⟨used,split,.single derives⟩

theorem Takes.extend (earlier : Takes (.chain op) ts f (.connective op :: more))
    (last : Takes (.operand op) more g rest) : Takes (.chain op) ts (.logical op f g) rest := by
  obtain ⟨used,rfl,derives⟩ := earlier
  obtain ⟨used',rfl,derives'⟩ := last
  exact ⟨used ++ .connective op :: used',by simp,.extend derives derives'⟩

theorem Takes.not (inner : Takes .negation ts f rest) : Takes .negation (.not :: ts) (.not f) rest := by
  obtain ⟨used,rfl,derives⟩ := inner
  exact ⟨.not :: used,rfl,.not derives⟩

theorem Takes.plain (inner : Takes .primary ts f rest) : Takes .negation ts f rest := by
  obtain ⟨used,split,derives⟩ := inner
  exact ⟨used,split,.plain derives⟩

theorem Takes.parentheses (inner : Takes (.chain .or) ts f (.closing :: rest)) :
    Takes .primary (.opening :: ts) f rest := by
  obtain ⟨used,rfl,derives⟩ := inner
  exact ⟨.opening :: (used ++ [.closing]),by simp,.parentheses derives⟩

theorem chain_parts (found : Yields (chain op ts) whole tail) :
    ∃ f rest, Yields (member op ts) f rest ∧ Yields (extend op f rest) whole tail := by
  obtain ⟨_,read⟩ := found
  rw [chain] at read
  split at read
  · cases read
  · rename_i first rest shorter answer
    split at read
    · cases read
    · rename_i further continued
      cases read
      exact ⟨first,rest,⟨shorter,answer⟩,⟨further,continued⟩⟩

theorem member_parts (found : Yields (member op ts) f rest) :
    (op = .or ∧ Yields (chain .and ts) f rest) ∨ (op = .and ∧ Yields (negation ts) f rest) := by
  obtain ⟨shorter,read⟩ := found
  cases op with
  | or =>
    rw [member] at read
    exact .inl ⟨rfl,shorter,read⟩
  | and =>
    rw [member] at read
    exact .inr ⟨rfl,shorter,read⟩

-- A chain ends, or goes on with its own connective.
theorem extend_parts (found : Yields (extend op f ts) whole tail) :
    (whole = f ∧ tail = ts) ∨ ∃ more g rest, ts = .connective op :: more ∧
      Yields (member op more) g rest ∧ Yields (extend op (.logical op f g) rest) whole tail := by
  obtain ⟨progress,read⟩ := found
  rw [extend.eq_def] at read
  split at read
  · rename_i next more
    split at read
    · rename_i same
      subst same
      split at read
      · cases read
      · rename_i g rest shorter answer
        split at read
        · cases read
        · rename_i further continued
          cases read
          exact .inr ⟨more,g,rest,rfl,⟨shorter,answer⟩,⟨further,continued⟩⟩
    · cases read
      exact .inl ⟨rfl,rfl⟩
  · cases read
    exact .inl ⟨rfl,rfl⟩

theorem negation_parts (found : Yields (negation ts) f rest) :
    (∃ more inner, ts = .not :: more ∧ f = .not inner ∧ Yields (negation more) inner rest) ∨
      Yields (primary ts) f rest := by
  obtain ⟨shorter,read⟩ := found
  rw [negation.eq_def] at read
  split at read
  · rename_i more
    split at read
    · cases read
    · rename_i inner rest progress answer
      cases read
      exact .inl ⟨more,inner,rfl,rfl,progress,answer⟩
  · exact .inr ⟨shorter,read⟩

theorem primary_parts (found : Yields (primary ts) f rest) :
    (∃ more, ts = .opening :: more ∧ Yields (chain .or more) f (.closing :: rest)) ∨
      Yields (simple ts) f rest := by
  obtain ⟨shorter,read⟩ := found
  rw [primary.eq_def] at read
  split at read
  · rename_i more
    split at read
    · cases read
    · cases read
    · rename_i inner t rest progress answer
      split at read
      · rename_i closes
        subst closes
        cases read
        exact .inl ⟨more,rfl,progress,answer⟩
      · cases read
  · exact .inr ⟨shorter,read⟩

theorem operand_parts {left : Operand} (read : operand ts = .ok (left,rest)) :
    ∃ t, ts = t :: rest ∧ Operand.ofToken? t = some left := by
  unfold operand at read
  split at read
  · cases read
  · rename_i t more
    split at read
    · rename_i found known
      cases read
      exact ⟨t,rfl,known⟩
    · cases read

theorem ofToken?_parts {t : Token} {left : Operand} (known : Operand.ofToken? t = some left) :
    (∃ name, t = .column name ∧ left = .column name) ∨ ∃ v, t = .literal v ∧ left = .value v := by
  cases t with
  | column name => cases known; exact .inl ⟨name,rfl,rfl⟩
  | literal v => cases known; exact .inr ⟨v,rfl,rfl⟩
  | _ => cases known

theorem lone_takes {t : Token} {left : Operand} (known : Operand.ofToken? t = some left)
    (read : lone left = .ok f) : Takes .primary (t :: rest) f rest := by
  rcases ofToken?_parts known with ⟨name,rfl,rfl⟩ | ⟨v,rfl,rfl⟩
  · cases read
    exact ⟨[.column name],rfl,.column name⟩
  · cases v with
    | boolean b =>
      cases read
      exact ⟨[.literal (.boolean b)],rfl,.constant b⟩
    | _ => cases read

theorem comparison_takes {t u : Token} {left right : Operand} {compared : Comparison}
    (first : Operand.ofToken? t = some left) (second : Operand.ofToken? u = some right)
    (read : comparison compared left right = .ok f) :
    Takes .primary (t :: .comparison compared :: u :: rest) f rest := by
  rcases ofToken?_parts first with ⟨name,rfl,rfl⟩ | ⟨v,rfl,rfl⟩
  · rcases ofToken?_parts second with ⟨other,rfl,rfl⟩ | ⟨w,rfl,rfl⟩
    · cases read
    · cases read
      exact ⟨[.column name,.comparison compared,.literal w],rfl,.columnFirst name compared w⟩
  · rcases ofToken?_parts second with ⟨name,rfl,rfl⟩ | ⟨w,rfl,rfl⟩
    · cases read
      exact ⟨[.literal v,.comparison compared,.column name],rfl,.valueFirst name compared v⟩
    · cases read

theorem map_ofRest_parts {answer : Except FilterFault Filter} {behind : List Token}
    {shorter : behind.length < ts.length}
    (found : Yields (answer.map (Parsed.ofRest shorter)) f rest) : answer = .ok f ∧ behind = rest := by
  obtain ⟨_,read⟩ := found
  cases answer with
  | error => cases read
  | ok => cases read; exact ⟨rfl,rfl⟩

theorem simple_takes (found : Yields (simple ts) f rest) : Takes .primary ts f rest := by
  unfold simple at found
  split at found
  · obtain ⟨_,failed⟩ := found
    cases failed
  · rename_i left op behind first
    obtain ⟨t,rfl,known⟩ := operand_parts first
    split at found
    · obtain ⟨_,failed⟩ := found
      cases failed
    · rename_i right tail second
      obtain ⟨u,rfl,known'⟩ := operand_parts second
      obtain ⟨compared,rfl⟩ := map_ofRest_parts found
      exact comparison_takes known known' compared
  · rename_i left behind _ first
    obtain ⟨t,rfl,known⟩ := operand_parts first
    obtain ⟨alone,rfl⟩ := map_ofRest_parts found
    exact lone_takes known alone

mutual

theorem chain_takes {op : Connective} {ts rest : List Token} {f : Filter}
    (found : Yields (chain op ts) f rest) : Takes (.chain op) ts f rest := by
  obtain ⟨first,tail,member,extended⟩ := chain_parts found
  have shorter : tail.length < ts.length := member.choose
  exact extend_takes extended (member_takes member).single
termination_by (ts.length,rank op + 1)

theorem member_takes {op : Connective} {ts rest : List Token} {f : Filter}
    (found : Yields (member op ts) f rest) : Takes (.operand op) ts f rest := by
  rcases member_parts found with ⟨rfl,chain⟩ | ⟨rfl,negation⟩
  · exact chain_takes chain
  · exact negation_takes negation
termination_by (ts.length,rank op)

theorem extend_takes {op : Connective} {all ts tail : List Token} {f whole : Filter}
    (found : Yields (extend op f ts) whole tail)
    (earlier : Takes (.chain op) all f ts) : Takes (.chain op) all whole tail := by
  rcases extend_parts found with ⟨rfl,rfl⟩ | ⟨more,g,rest,equal,member,extended⟩
  · exact earlier
  · have behind : more.length < ts.length := by rw [equal]; exact Nat.lt_succ_self _
    have further : rest.length < ts.length := Nat.lt_trans member.choose behind
    rw [equal] at earlier
    exact extend_takes extended (earlier.extend (member_takes member))
termination_by (ts.length,0)

theorem negation_takes {ts rest : List Token} {f : Filter}
    (found : Yields (negation ts) f rest) : Takes .negation ts f rest := by
  rcases negation_parts found with ⟨more,inner,rfl,rfl,negated⟩ | primary
  · exact (negation_takes negated).not
  · exact (primary_takes primary).plain
termination_by (ts.length,1)

theorem primary_takes {ts rest : List Token} {f : Filter}
    (found : Yields (primary ts) f rest) : Takes .primary ts f rest := by
  rcases primary_parts found with ⟨more,rfl,chain⟩ | simple
  · exact (chain_takes chain).parentheses
  · exact simple_takes simple
termination_by (ts.length,0)

end

theorem filter_exact : filter ts = .ok f ↔ Derives (.chain .or) ts f := by
  constructor
  · intro parsed
    unfold filter at parsed
    split at parsed
    · cases parsed
    · rename_i shorter answer
      cases parsed
      obtain ⟨used,split,derives⟩ := chain_takes ⟨shorter,answer⟩
      rw [split,List.append_nil]
      exact derives
    · cases parsed
  · exact Derives.filter

-- Every sequence of tokens spells one filter and is read as that one, or it
-- spells none and is refused.
theorem parses_exactly :
    (∀ ts f, filter ts = .ok f ↔ Derives (.chain .or) ts f) ∧
    (∀ ts, (∃! f, Derives (.chain .or) ts f) ∨
      (∃ fault, filter ts = .error fault) ∧ ∀ f, ¬Derives (.chain .or) ts f) ∧
    ∀ text f, Filter.ofText? text = .ok f ↔
      ∃ ts, Lexer.tokensOf text = .ok ts ∧ Derives (.chain .or) ts f := by
  refine ⟨fun ts f => filter_exact,fun ts => ?_,fun text f => ?_⟩
  · cases parsed : filter ts with
    | ok f =>
      refine .inl ⟨f,filter_exact.mp parsed,fun g derives => ?_⟩
      have again := filter_exact.mpr derives
      rw [parsed] at again
      exact (Except.ok.inj again).symm
    | error fault =>
      refine .inr ⟨⟨fault,rfl⟩,fun f derives => ?_⟩
      rw [filter_exact.mpr derives] at parsed
      cases parsed
  · constructor
    · intro read
      obtain ⟨ts,lexed,parsed⟩ := bind_parts read
      exact ⟨ts,lexed,filter_exact.mp parsed⟩
    · rintro ⟨ts,lexed,derives⟩
      rw [Filter.ofText?,lexed]
      exact filter_exact.mpr derives

example : Filter.ofText? "1 lt a or b and not c" =
    .ok (.logical .or (.compare "a" .gt (.int32 1)) (.logical .and (.column "b") (.not (.column "c")))) := by
  cbv

end Grammar
end TypedTable
