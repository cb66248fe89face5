import TypedTable.Proofs.Expr.Written

namespace TypedTable

namespace Expr

variable {env : Environment} {names : NameTable}

theorem filterText_spells {e : Expr} {text : String} (exact : e.IsExact env names)
    (translated : filterText env names e = .ok text) :
    ∃ f, Spells (.chain .or) text f ∧ ∀ row, f.accepts row = e.holdsOn env names row := by
  have writes := filterText_writes translated
  have named : ∀ name ∈ e.body.columns names, IsName name := by
    rw [columns_body]
    exact exact.named
  have fixed : ∀ t, .dateTime t ∈ e.body.literals env → t.IsFixed := by
    rw [literals_body]
    exact exact.fixed
  obtain ⟨f,derives,means⟩ := writes.derives names
  refine ⟨f,⟨_,writes.lexes named fun t member => (fixed t member).spelled,derives.whole⟩,fun row => ?_⟩
  rw [means fixed row,holdsOn_body]

-- Both connectives, a negation, members on either side, a renamed column, a
-- quote inside a text and an instant that is read from a variable.
def nested : Expr :=
  .predicate (.logical .and
    (.not (.logical .or (.compare (field "name") .eq (.constant (.string "O'Brien")))
      (.compare (.captured "since" (.variable "since")) .lt (field "changed"))))
    (.logical .and (field "active") (.compare (.constant (.int32 1)) .le (.constant (.int64 2)))))

def nestedNames : NameTable := (∅ : NameTable).insert "changed" "Timestamp"

def nestedEnvironment : Environment := fun _ => .dateTime ⟨1000000000,700,by decide,by decide⟩

def nestedText : String :=
  "not (name eq 'O''Brien' or Timestamp gt datetime'2001-09-09T01:46:40.0000007Z') and active and true"

theorem nested_exact : nested.IsExact nestedEnvironment nestedNames := by
  have named : ∀ name ∈ nested.columns nestedNames, IsName name := by decide +kernel
  refine ⟨named,fun t member => ?_⟩
  have read : nested.literals nestedEnvironment =
      [.string "O'Brien",.dateTime ⟨1000000000,700,by decide,by decide⟩] := rfl
  rw [read] at member
  simp only [List.mem_cons,reduceCtorEq,Value.dateTime.injEq,List.not_mem_nil,or_false,false_or]
    at member
  subst member
  exact ⟨rfl,rfl,by decide,by decide⟩

end Expr
end TypedTable
