namespace TypedTable

-- A computation that succeeds has succeeded in each of its steps.
theorem bind_parts {ε α β : Type} {first : Except ε α} {next : α → Except ε β} {b : β}
    (ran : first >>= next = .ok b) : ∃ a, first = .ok a ∧ next a = .ok b := by
  cases first with
  | error => cases ran
  | ok a => exact ⟨a,rfl,ran⟩

-- A computation that fails has failed in its first step or after it.
theorem bind_failed {ε α β : Type} {first : Except ε α} {next : α → Except ε β} {problem : ε}
    (failed : first >>= next = .error problem) :
    first = .error problem ∨ ∃ a, first = .ok a ∧ next a = .error problem := by
  cases first with
  | error => cases failed; exact .inl rfl
  | ok a => exact .inr ⟨a,rfl,failed⟩

theorem map_failed {ε α β : Type} {ran : Except ε α} {f : α → β} {problem : ε}
    (failed : ran.map f = .error problem) : ran = .error problem := by
  cases ran with
  | error => cases failed; rfl
  | ok => cases failed

theorem exists_ok {ε α : Type} {ran : Except ε α} (done : ran.isOk = true) : ∃ a, ran = .ok a := by
  cases ran with
  | error => cases done
  | ok a => exact ⟨a,rfl⟩

-- Computations that succeed alike. What is wrong with them may differ.
def Agree {ε α : Type} (x y : Except ε α) : Prop := ∀ a, x = .ok a ↔ y = .ok a

namespace Agree

variable {ε α β : Type} {x y : Except ε α} {f g : α → Except ε β} {p q : ε}

theorem refl (x : Except ε α) : Agree x x := fun _ => Iff.rfl

theorem errors : Agree (.error p : Except ε α) (.error q) := fun _ => ⟨nofun,nofun⟩

theorem bind (first : Agree x y) (next : ∀ a, Agree (f a) (g a)) : Agree (x >>= f) (y >>= g) := by
  intro b
  constructor
  · intro ran
    obtain ⟨a,started,ended⟩ := bind_parts ran
    rw [(first a).mp started]
    exact (next a b).mp ended
  · intro ran
    obtain ⟨a,started,ended⟩ := bind_parts ran
    rw [(first a).mpr started]
    exact (next a b).mpr ended

end Agree

theorem mapM_cons_parts {ε α β : Type} {f : α → Except ε β} {xs : List α} {y : β} {ys : List β}
    (mapped : xs.mapM f = .ok (y :: ys)) :
    ∃ x rest, xs = x :: rest ∧ f x = .ok y ∧ rest.mapM f = .ok ys := by
  cases xs with
  | nil => cases mapped
  | cons x rest =>
    rw [List.mapM_cons] at mapped
    obtain ⟨z,first,more⟩ := bind_parts mapped
    obtain ⟨zs,others,whole⟩ := bind_parts more
    cases whole
    exact ⟨x,rest,rfl,first,others⟩

theorem mapM_nil_parts {ε α β : Type} {f : α → Except ε β} {xs : List α}
    (mapped : xs.mapM f = .ok []) : xs = [] := by
  cases xs with
  | nil => rfl
  | cons x rest =>
    rw [List.mapM_cons] at mapped
    obtain ⟨z,_,more⟩ := bind_parts mapped
    obtain ⟨zs,_,whole⟩ := bind_parts more
    cases whole

theorem mem_of_mapM {ε α β : Type} {f : α → Except ε β} {xs : List α} {ys : List β} {x : α}
    (mapped : xs.mapM f = .ok ys) (member : x ∈ xs) : ∃ y ∈ ys, f x = .ok y := by
  induction ys generalizing xs with
  | nil =>
    rw [mapM_nil_parts mapped] at member
    cases member
  | cons y ys ih =>
    obtain ⟨x',rest,rfl,first,others⟩ := mapM_cons_parts mapped
    rcases List.mem_cons.mp member with rfl | later
    · exact ⟨y,List.mem_cons_self,first⟩
    · obtain ⟨z,inside,read⟩ := ih others later
      exact ⟨z,List.mem_cons_of_mem _ inside,read⟩

section

variable {σ ε α β : Type}

-- A computation with a state that starts in s and ends with this result in s'.
def Ran (x : ExceptT ε (StateM σ) α) (s : σ) (result : Except ε α) (s' : σ) : Prop :=
  x.run.run s = (result,s')

variable {x : ExceptT ε (StateM σ) α} {f : α → ExceptT ε (StateM σ) β}
  {s s' s'' : σ} {a : α} {b : β}

theorem Ran.self (x : ExceptT ε (StateM σ) α) (s : σ) : Ran x s (x.run.run s).1 (x.run.run s).2 := rfl

theorem Ran.unique {result result' : Except ε α} (ran : Ran x s result s') (ran' : Ran x s result' s'') :
    result = result' ∧ s' = s'' :=
  Prod.mk.inj (ran.symm.trans ran')

theorem Ran.pure (a : α) (s : σ) : Ran (ε := ε) (pure a) s (.ok a) s := rfl

theorem Ran.get (s : σ) : Ran (ε := ε) get s (.ok s) s := rfl

theorem Ran.ofExcept (result : Except ε α) (s : σ) :
    Ran (liftM result : ExceptT ε (StateM σ) α) s result s := by
  cases result <;> rfl

theorem Ran.lifted {first result : Except ε α} (same : first = result) (s : σ) :
    Ran (liftM first : ExceptT ε (StateM σ) α) s result s := by
  subst same
  exact Ran.ofExcept first s

theorem run_bind (x : ExceptT ε (StateM σ) α) (f : α → ExceptT ε (StateM σ) β) (s : σ) :
    (x >>= f).run.run s =
      match x.run.run s with
      | (.ok a,s') => (f a).run.run s'
      | (.error problem,s') => (.error problem,s') := by
  rw [ExceptT.run_bind,StateT.run_bind]
  obtain ⟨result,s'⟩ := x.run.run s
  cases result <;> rfl

theorem Ran.bind {result : Except ε β} (first : Ran x s (.ok a) s') (next : Ran (f a) s' result s'') :
    Ran (x >>= f) s result s'' := by
  unfold Ran at *
  rw [run_bind,first]
  exact next

theorem Ran.bind_failed {problem : ε} (failed : Ran x s (.error problem) s') :
    Ran (x >>= f) s (.error problem) s' := by
  unfold Ran at *
  rw [run_bind,failed]

theorem Ran.bind_pure {result : Except ε α} (ran : Ran x s result s') : Ran (x >>= Pure.pure) s result s' := by
  rw [LawfulMonad.bind_pure_comp]
  exact (id_map x).symm ▸ ran

theorem Ran.bind_lift {first : Except ε α} {result : Except ε β} (lifted : first = .ok a)
    (next : Ran (f a) s result s') : Ran (liftM first >>= f) s result s' := by
  subst lifted
  exact next

theorem Ran.discard {result : Except ε α} (ran : Ran x s result s') :
    Ran (discard x) s (result.map fun _ => ()) s' := by
  unfold Ran at *
  change ((fun _ => PUnit.unit) <$> x).run.run s = _
  rw [ExceptT.run_map,StateT.run_map,ran]
  rfl

-- What is discarded is a result, never a failure.
theorem failed_of_discard {problem : ε} (failed : Ran (discard x) s (.error problem) s') :
    Ran x s (.error problem) s' := by
  obtain ⟨result,s'',ran⟩ : ∃ result s'', Ran x s result s'' := ⟨_,_,rfl⟩
  obtain ⟨mapped,rfl⟩ := failed.unique ran.discard
  cases result with
  | ok => cases mapped
  | error =>
    cases mapped
    exact ran

theorem Ran.parts (ran : Ran (x >>= f) s (.ok b) s'') :
    ∃ a s', Ran x s (.ok a) s' ∧ Ran (f a) s' (.ok b) s'' := by
  unfold Ran at *
  rw [run_bind] at ran
  split at ran
  · rename_i a s' first
    exact ⟨a,s',first,ran⟩
  · cases ran

theorem Ran.failed_parts {problem : ε} (ran : Ran (x >>= f) s (.error problem) s'') :
    Ran x s (.error problem) s'' ∨ ∃ a s', Ran x s (.ok a) s' ∧ Ran (f a) s' (.error problem) s'' := by
  unfold Ran at *
  rw [run_bind] at ran
  split at ran
  · rename_i a s' first
    exact .inr ⟨a,s',first,ran⟩
  · rename_i found s' first
    cases ran
    exact .inl first

theorem Ran.lift_parts {first : Except ε α} (ran : Ran (liftM first >>= f) s (.ok b) s'') :
    ∃ a, first = .ok a ∧ Ran (f a) s (.ok b) s'' := by
  obtain ⟨a,s',lifted,next⟩ := ran.parts
  cases first with
  | error => cases lifted
  | ok => cases lifted; exact ⟨a,rfl,next⟩

-- A failure of the computation leaves the state as it was.
def Atomic (x : ExceptT ε (StateM σ) α) : Prop := ∀ s problem s', Ran x s (.error problem) s' → s' = s

namespace Atomic

-- Steps that do not touch the state may come in front of an atomic computation.
theorem lift_bind {first : Except ε α} (next : ∀ a, Atomic (f a)) : Atomic (liftM first >>= f) := by
  intro s problem s'' ran
  rcases ran.failed_parts with failed | ⟨a,s',lifted,more⟩
  · exact (failed.unique (Ran.ofExcept first s)).2
  · obtain ⟨_,rfl⟩ := lifted.unique (Ran.ofExcept first s)
    exact next a s' problem s'' more

theorem get_bind {f : σ → ExceptT ε (StateM σ) β} (next : ∀ s, Atomic (f s)) : Atomic (get >>= f) := by
  intro s problem s'' ran
  rcases ran.failed_parts with failed | ⟨seen,s',got,more⟩
  · cases failed
  · cases got
    exact next s s problem s'' more

theorem throw_bind (problem : ε) (f : α → ExceptT ε (StateM σ) β) : Atomic (throw problem >>= f) := by
  intro s problem' s'' ran
  rcases ran.failed_parts with thrown | ⟨_,_,thrown,_⟩
  · cases thrown; rfl
  · cases thrown

-- Writing is the last thing that may be done: nothing fails behind it.
theorem of_ran (done : ∀ s, ∃ a s', Ran x s (.ok a) s') : Atomic x := by
  intro s problem s'' ran
  obtain ⟨a,s',ran'⟩ := done s
  cases (ran.unique ran').1

end Atomic

-- The computation succeeds on all items, one after the other.
inductive RanAll (each : α → ExceptT ε (StateM σ) β) : σ → List α → σ → Prop where
  | nil {s : σ} : RanAll each s [] s
  | cons {s s' s'' : σ} {a : α} {b : β} {rest : List α} (first : Ran (each a) s (.ok b) s')
      (others : RanAll each s' rest s'') : RanAll each s (a :: rest) s''

theorem RanAll.imp {γ : Type} {each : α → ExceptT ε (StateM σ) β} {each' : α → ExceptT ε (StateM σ) γ}
    {items : List α} (ran : RanAll each s items s'')
    (imp : ∀ a s b s', Ran (each a) s (.ok b) s' → ∃ c, Ran (each' a) s (.ok c) s') : RanAll each' s items s'' := by
  induction ran with
  | nil => exact .nil
  | cons first _ ih =>
    obtain ⟨c,first⟩ := imp _ _ _ _ first
    exact .cons first ih

-- A run over a list fails at one of its items, after all items before it.
theorem mapM_failed {each : α → ExceptT ε (StateM σ) β} {items : List α} {problem : ε}
    (ran : Ran (items.mapM each) s (.error problem) s'') :
    ∃ k a s', items[k]? = some a ∧ RanAll each s (items.take k) s' ∧ Ran (each a) s' (.error problem) s'' := by
  induction items generalizing s with
  | nil => cases ran
  | cons a rest ih =>
    rw [List.mapM_cons] at ran
    rcases ran.failed_parts with first | ⟨b,s',first,more⟩
    · exact ⟨0,a,s,rfl,.nil,first⟩
    · rcases more.failed_parts with others | ⟨bs,s',_,last⟩
      · obtain ⟨k,a',s',here,before,failed⟩ := ih others
        exact ⟨k + 1,a',s',here,.cons first before,failed⟩
      · cases last

end

end TypedTable
