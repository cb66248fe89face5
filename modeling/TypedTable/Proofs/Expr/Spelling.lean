import Mathlib
import TypedTable.Proofs.Expr.Translation
import TypedTable.Proofs.Grammar.Exact
import TypedTable.Proofs.Lexing.Names

namespace TypedTable
namespace Expr

open Grammar Lexer

variable {env : Environment} {names : NameTable} {e : Expr} {text : String} {f : Filter}

theorem Writes.finite (writes : Writes env names e text) {x : Double} (member : .double x ∈ e.literals env) :
    x.isFinite = true := by
  induction writes with
  | closed value =>
    rw [literals_of_shut (shut_of_closed value)] at member
    cases member
  | member parameter field => cases member
  | compare compares written =>
    rw [compares.literals] at member
    exact (literal_parts written).2 x (List.mem_singleton.mp member).symm
  | logical opened first second ih ih' =>
    rcases List.mem_append.mp member with inside | inside
    · exact ih inside
    · exact ih' inside
  | not opened negated ih => exact ih member

theorem namedTokens_empty : e.namedTokens env ∅ = e.tokens env := by
  have same : Token.rename (NameTable.resolve ∅) = id := by
    funext t
    cases t with
    | column name => simp [Token.rename,NameTable.resolve]
    | _ => rfl
  rw [namedTokens,same,List.map_id]

-- One filter for all tables of names, but for the names of its columns.
theorem Writes.shape (writes : Writes env names e text) : ∃ shape : Filter, ∀ names' : NameTable,
    Derives (.chain .or) (e.namedTokens env names') (shape.rename names'.resolve) := by
  obtain ⟨shape,derives,_⟩ := writes.derives ∅
  rw [namedTokens_empty] at derives
  exact ⟨shape,fun names' => derives.whole.rename names'.resolve⟩

-- Only names are columns, whatever the text is.
theorem isName_of_ofText? (read : Filter.ofText? text = .ok f) {name : String} (column : name ∈ f.columns) :
    IsName name := by
  obtain ⟨ts,lexed,parsed⟩ := bind_parts read
  have inside := ((filter_exact.mp parsed).columns name).mp column
  exact isName_of_tokens (tokensOf_parts lexed) inside

theorem Writes.spelled (writes : Writes env names e text) (read : Filter.ofText? text = .ok f)
    (named : ∀ name ∈ e.columns names, IsName name) : ∀ t, .dateTime t ∈ e.literals env → t.IsSpelled := by
  intro t member
  by_contra long
  obtain ⟨fault,failed⟩ := (writes.refused named member long).tokensOf
  rw [Filter.ofText?,failed] at read
  cases read

theorem exists_shape (env : Environment) (e : Expr) : ∃ shape : Filter, ∀ names text,
    filterText env names e = .ok text →
      Derives (.chain .or) (e.body.namedTokens env names) (shape.rename names.resolve) := by
  by_cases translatable : ∃ names text, filterText env names e = .ok text
  · obtain ⟨_,_,translated⟩ := translatable
    obtain ⟨shape,derives⟩ := (filterText_writes translated).shape
    exact ⟨shape,fun names _ _ => derives names⟩
  · exact ⟨.constant true,fun names text translated => absurd ⟨names,text,translated⟩ translatable⟩

-- Which texts say what they should. A column is printed as it is resolved, so
-- it has to be a name, and a year has to fit into four digits. Then the table
-- of names decides on nothing but the names of the columns.
theorem filterText_wellFormed (env : Environment) (e : Expr) :
    ∃ shape : Filter, ∀ names text, filterText env names e = .ok text →
      ((∃ f, Filter.ofText? text = .ok f ∧ ∀ name, name ∈ f.columns ↔ name ∈ e.columns names) ↔
        (∀ name ∈ e.columns names, IsName name) ∧ ∀ t, .dateTime t ∈ e.literals env → t.IsSpelled) ∧
      ((∀ name ∈ e.columns names, IsName name) → (∀ t, .dateTime t ∈ e.literals env → t.IsSpelled) →
        Filter.ofText? text = .ok (shape.rename names.resolve)) ∧
      ∀ x, .double x ∈ e.literals env → x.isFinite = true := by
  obtain ⟨shape,derives⟩ := exists_shape env e
  refine ⟨shape,fun names text translated => ?_⟩
  have writes := filterText_writes translated
  have derives := derives names text translated
  have reads (named : ∀ name ∈ e.columns names, IsName name)
      (spelled : ∀ t, .dateTime t ∈ e.literals env → t.IsSpelled) :
      Filter.ofText? text = .ok (shape.rename names.resolve) := by
    rw [← columns_body] at named
    rw [← literals_body] at spelled
    exact Spells.ofText? ⟨_,writes.lexes named spelled,derives⟩
  refine ⟨⟨?_,?_⟩,reads,fun x member => ?_⟩
  · rintro ⟨f,read,same⟩
    rw [← columns_body,← literals_body]
    rw [← columns_body] at same
    have named (name : String) (column : name ∈ e.body.columns names) : IsName name :=
      isName_of_ofText? read ((same name).mpr column)
    exact ⟨named,writes.spelled read named⟩
  · rintro ⟨named,spelled⟩
    refine ⟨_,reads named spelled,fun name => ?_⟩
    rw [derives.columns,writes.columns,columns_body]
  · rw [← literals_body] at member
    exact writes.finite member

theorem filterText_wellFormed_nested :
    nested.filterText nestedEnvironment nestedNames = .ok nestedText ∧
      ∃ f, Filter.ofText? nestedText = .ok f ∧ ∀ name, name ∈ f.columns ↔ name ∈ nested.columns nestedNames := by
  have translated : nested.filterText nestedEnvironment nestedNames = .ok nestedText := rfl
  obtain ⟨shape,exact⟩ := filterText_wellFormed nestedEnvironment nested
  obtain ⟨wellFormed,_,_⟩ := exact nestedNames nestedText translated
  exact ⟨translated,wellFormed.mpr ⟨nested_exact.named,fun t member => (nested_exact.fixed t member).spelled⟩⟩

def called (column : String) : NameTable := (∅ : NameTable).insert "Name" column

def one : Expr := .predicate (.compare (field "Name") .eq (.constant (.int32 1)))

def unset : Expr := .predicate (.not (field "Name"))

-- The first instant of a year with five digits.
def late : Instant := ⟨253402300800,0,Instant.epoch.nanos_lt,by decide⟩

def sinceLate : Expr := .predicate (.compare (field "At") .ge (.constant (.dateTime late)))

-- A column is not looked at before it is printed. With a blank in it there is
-- no filter, and with a connective it is another one. Nor is a year.
theorem filterText_misread :
    (one.filterText nestedEnvironment (called "First Name") = .ok "First Name eq 1" ∧
      Filter.ofText? "First Name eq 1" = .error (.trailing (.column "Name"))) ∧
    (unset.filterText nestedEnvironment (called "Open or Active") = .ok "not Open or Active" ∧
      Filter.ofText? "not Open or Active" = .ok (.logical .or (.not (.column "Open")) (.column "Active"))) ∧
    ∃ text fault, sinceLate.filterText nestedEnvironment ∅ = .ok text ∧ Filter.ofText? text = .error fault := by
  refine ⟨⟨rfl,?_⟩,⟨rfl,?_⟩,?_⟩
  · cbv
  · cbv
  · have translated : sinceLate.filterText nestedEnvironment ∅ =
        .ok ("At" ++ " " ++ Comparison.ge.token ++ " " ++ (Value.dateTime late).literal) := rfl
    have named : ∀ name ∈ sinceLate.body.columns ∅, IsName name := by decide +kernel
    have long : ¬late.IsSpelled := fun spelled => absurd spelled.2 (by decide +kernel)
    obtain ⟨fault,failed⟩ :=
      ((filterText_writes translated).refused named List.mem_cons_self long).tokensOf
    refine ⟨_,fault,translated,?_⟩
    rw [Filter.ofText?,failed]
    rfl

end Expr
end TypedTable
