import TypedTable.Proofs.Memory

namespace TypedTable
namespace Backend

-- A request for a segment and what the store answers.
structure Exchange where
  table : String
  request : Request
  limit : Nat
  start : Option Position
  answer : Except Failure Segment

-- All rows of a log, in the order in which they came.
def received (log : List Exchange) : List Bag :=
  log.flatMap fun x =>
    match x.answer with
    | .ok segment => segment.rows
    | .error _ => []

-- Where a query goes on after these calls: from the start, or from where the
-- last segment says.
inductive GoesOn : List Exchange → Option Position → Prop where
  | first : GoesOn [] none
  | next {earlier : List Exchange} {x : Exchange} {segment : Segment} {position : Position}
      (answered : x.answer = .ok segment) (goes : segment.next = some position) :
      GoesOn (earlier ++ [x]) (some position)

-- The next call of a query after these calls.
structure Follows (table : String) (request : Request) (pageSize : Nat) (earlier : List Exchange)
    (x : Exchange) : Prop where
  scans : x.table = table
  passes : x.request = request
  start : GoesOn earlier x.start
  limited : ∀ n, request.take = some n →
    (received earlier).length < n ∧ x.limit = min pageSize (n - (received earlier).length)
  unlimited : request.take = none → x.limit = pageSize

-- Each call of a query is the next one after those before it.
def Asked (table : String) (request : Request) (pageSize : Nat) (log : List Exchange) : Prop :=
  ∀ earlier x later, log = earlier ++ x :: later → Follows table request pageSize earlier x

-- Calls that tell the result: enough rows came, or the last answer is a
-- failure or a segment that goes nowhere.
inductive Ended (request : Request) (log : List Exchange) : Prop where
  | enough {n : Nat} (bounded : request.take = some n) (full : n ≤ (received log).length)
  | last {x : Exchange} (final : log.getLast? = some x)
      (nowhere : ∀ segment, x.answer = .ok segment → segment.next = none)

-- The rows of all segments, or the failure of the last call.
inductive Answers (log : List Exchange) : Except Failure (List Bag) → Prop where
  | rows (fine : ∀ x ∈ log, ∃ segment, x.answer = .ok segment) : Answers log (.ok (received log))
  | failed {x : Exchange} {problem : Failure} (final : log.getLast? = some x) (fails : x.answer = .error problem) :
      Answers log (.error problem)

section

variable {table : String} {request : Request} {pageSize : Nat} {log : List Exchange} {start : Option Position}
  {x : Exchange} {collected : List Bag}

theorem received_snoc {segment : Segment} (answered : x.answer = .ok segment) :
    received (log ++ [x]) = received log ++ segment.rows := by
  rw [received,List.flatMap_append,List.flatMap_singleton,answered]
  rfl

theorem fine_snoc {segment : Segment} (fine : ∀ x ∈ log, ∃ segment, x.answer = .ok segment)
    (answered : x.answer = .ok segment) : ∀ y ∈ log ++ [x], ∃ segment, y.answer = .ok segment := by
  intro y member
  rcases List.mem_append.mp member with old | new
  · exact fine y old
  · cases List.mem_singleton.mp new
    exact ⟨segment,answered⟩

theorem Answers.snoc {segment : Segment} (fine : ∀ x ∈ log, ∃ segment, x.answer = .ok segment)
    (answered : x.answer = .ok segment) : Answers (log ++ [x]) (.ok (received log ++ segment.rows)) := by
  rw [← received_snoc answered]
  exact .rows (fine_snoc fine answered)

theorem Asked.nil : Asked table request pageSize [] := by
  intro earlier x later split
  cases earlier <;> cases split

theorem Asked.snoc (asked : Asked table request pageSize log) (follows : Follows table request pageSize log x) :
    Asked table request pageSize (log ++ [x]) := by
  intro earlier y later split
  rcases List.eq_nil_or_concat later with rfl | ⟨between,z,rfl⟩
  · obtain ⟨rfl,last⟩ := List.append_inj' split rfl
    cases last
    exact follows
  · rw [List.concat_eq_append,← List.cons_append,← List.append_assoc] at split
    exact asked earlier y between (List.append_inj' split rfl).1

-- How many rows a query asks for that has these rows.
def budget (request : Request) (pageSize : Nat) (collected : List Bag) : Nat :=
  min (remaining request pageSize collected) pageSize

-- A query between two calls.
structure Reached (table : String) (request : Request) (pageSize : Nat) (log : List Exchange)
    (collected : List Bag) (start : Option Position) : Prop where
  asked : Asked table request pageSize log
  fine : ∀ x ∈ log, ∃ segment, x.answer = .ok segment
  goes : GoesOn log start
  counted : collected = received log

theorem Reached.nil : Reached table request pageSize [] [] none :=
  ⟨.nil,fun _ member => absurd member List.not_mem_nil,.first,rfl⟩

theorem Reached.follows (reached : Reached table request pageSize log collected start)
    (wanted : remaining request pageSize collected ≠ 0) (answer : Except Failure Segment) :
    Follows table request pageSize log
      ⟨table,request,budget request pageSize collected,start,answer⟩ := by
  obtain ⟨_,_,goes,rfl⟩ := reached
  refine ⟨rfl,rfl,goes,?_,?_⟩
  · intro n bounded
    rw [remaining,bounded] at wanted
    refine ⟨Nat.lt_of_sub_ne_zero wanted,?_⟩
    dsimp only
    rw [budget,remaining,bounded]
    exact Nat.min_comm ..
  · intro unbounded
    dsimp only
    rw [budget,remaining,unbounded]
    exact Nat.min_self _

theorem Reached.next {segment : Segment} {position : Position}
    (reached : Reached table request pageSize log collected start)
    (follows : Follows table request pageSize log x) (answered : x.answer = .ok segment)
    (goes : segment.next = some position) :
    Reached table request pageSize (log ++ [x]) (collected ++ segment.rows) (some position) := by
  obtain ⟨asked,fine,_,rfl⟩ := reached
  exact ⟨asked.snoc follows,fine_snoc fine answered,.next answered goes,(received_snoc answered).symm⟩

theorem Reached.not_ended (reached : Reached table request pageSize log collected start)
    (wanted : remaining request pageSize collected ≠ 0) : ¬Ended request log := by
  obtain ⟨_,_,goes,rfl⟩ := reached
  intro ended
  cases ended with
  | enough bounded full =>
    rw [remaining,bounded] at wanted
    exact wanted (Nat.sub_eq_zero_of_le full)
  | last final nowhere =>
    cases goes with
    | first => cases final
    | next answered goes =>
      cases (List.getLast?_concat).symm.trans final
      cases goes.symm.trans (nowhere _ answered)

theorem Reached.enough (reached : Reached table request pageSize log collected start) (paged : 1 ≤ pageSize)
    (full : remaining request pageSize collected = 0) : Ended request log := by
  obtain ⟨_,_,_,rfl⟩ := reached
  unfold remaining at full
  split at full
  · rename_i n bounded
    exact .enough bounded (Nat.le_of_sub_eq_zero full)
  · omega

end

variable {σ : Type}

-- The store with a log of the segments that it is asked for.
def recorded (b : Backend σ) : Backend (σ × List Exchange) where
  segment table request limit start := ExceptT.mk do
    let (s,log) ← get
    let (answer,s') := (b.segment table request limit start).run.run s
    set (s',log ++ [⟨table,request,limit,start,answer⟩])
    return answer
  write table kind row := ExceptT.mk do
    let (s,log) ← get
    let (answer,s') := (b.write table kind row).run.run s
    set (s',log)
    return answer
  patience state table := b.patience state.1 table

-- The loop of a query, with the calls that it makes.
inductive Collects (b : Backend σ) (table : String) (request : Request) (pageSize : Nat) :
    Nat → List Bag → Option Position → σ → List Exchange → Except Failure (List Bag) → σ → Prop where
  | enough {patience : Nat} {collected : List Bag} {start : Option Position} {s : σ}
      (full : remaining request pageSize collected = 0) :
      Collects b table request pageSize patience collected start s [] (.ok collected) s
  | unfinished {collected : List Bag} {start : Option Position} {s : σ}
      (wanted : remaining request pageSize collected ≠ 0) :
      Collects b table request pageSize 0 collected start s [] (.error .unfinished) s
  | failed {patience : Nat} {collected : List Bag} {start : Option Position} {problem : Failure} {s s' : σ}
      (wanted : remaining request pageSize collected ≠ 0)
      (ran : Ran (b.segment table request (budget request pageSize collected) start) s (.error problem) s') :
      Collects b table request pageSize (patience + 1) collected start s
        [⟨table,request,budget request pageSize collected,start,.error problem⟩] (.error problem) s'
  | last {patience : Nat} {collected : List Bag} {start : Option Position} {segment : Segment} {s s' : σ}
      (wanted : remaining request pageSize collected ≠ 0)
      (ran : Ran (b.segment table request (budget request pageSize collected) start) s (.ok segment) s')
      (ends : segment.next = none) :
      Collects b table request pageSize (patience + 1) collected start s
        [⟨table,request,budget request pageSize collected,start,.ok segment⟩]
        (.ok (collected ++ segment.rows)) s'
  | next {patience : Nat} {collected : List Bag} {start : Option Position} {segment : Segment} {s s' s'' : σ}
      {position : Position} {log : List Exchange} {result : Except Failure (List Bag)}
      (wanted : remaining request pageSize collected ≠ 0)
      (ran : Ran (b.segment table request (budget request pageSize collected) start) s (.ok segment) s')
      (goes : segment.next = some position)
      (more : Collects b table request pageSize patience (collected ++ segment.rows) (some position) s' log result
        s'') :
      Collects b table request pageSize (patience + 1) collected start s
        (⟨table,request,budget request pageSize collected,start,.ok segment⟩ :: log) result s''

section

variable {b b' : Backend σ} {table : String} {request : Request} {pageSize patience limit : Nat}
  {collected : List Bag} {start : Option Position} {s s' : σ} {log : List Exchange}
  {result : Except Failure (List Bag)} {answer : Except Failure Segment}

theorem ran_recorded (ran : Ran (b.segment table request limit start) s answer s') :
    Ran (b.recorded.segment table request limit start) (s,log) answer
      (s',log ++ [⟨table,request,limit,start,answer⟩]) := by
  unfold Ran at *
  change (match (b.segment table request limit start).run.run s with
    | (answer,s') => (answer,s',log ++ [Exchange.mk table request limit start answer])) = _
  rw [ran]

theorem collects_exists (b : Backend σ) (table : String) (request : Request) (pageSize patience : Nat)
    (collected : List Bag) (start : Option Position) (s : σ) :
    ∃ log result s', Collects b table request pageSize patience collected start s log result s' := by
  induction patience generalizing collected start s with
  | zero =>
    by_cases full : remaining request pageSize collected = 0
    · exact ⟨_,_,_,.enough full⟩
    · exact ⟨_,_,_,.unfinished full⟩
  | succ patience ih =>
    by_cases full : remaining request pageSize collected = 0
    · exact ⟨_,_,_,.enough full⟩
    · obtain ⟨answer,s',ran⟩ : ∃ answer s',
          Ran (b.segment table request (budget request pageSize collected) start) s answer s' := ⟨_,_,rfl⟩
      cases answer with
      | error problem => exact ⟨_,_,_,.failed full ran⟩
      | ok segment =>
        cases goes : segment.next with
        | none => exact ⟨_,_,_,.last full ran goes⟩
        | some position =>
          obtain ⟨_,_,_,more⟩ := ih (collected ++ segment.rows) (some position) s'
          exact ⟨_,_,_,.next full ran goes more⟩

theorem Collects.ran (collects : Collects b table request pageSize patience collected start s log result s') :
    Ran (b.collect table request pageSize patience collected start) s result s' := by
  induction collects with
  | enough full =>
    unfold collect
    rw [if_pos full]
    exact Ran.pure _ _
  | unfinished wanted =>
    rw [collect,if_neg wanted]
    rfl
  | failed wanted ran =>
    rw [collect,if_neg wanted]
    exact Ran.bind_failed ran
  | last wanted ran ends =>
    rw [collect,if_neg wanted]
    refine Ran.bind ran ?_
    rw [ends]
    exact Ran.pure _ _
  | next wanted ran goes _ ih =>
    rw [collect,if_neg wanted]
    refine Ran.bind ran ?_
    rw [goes]
    exact ih

theorem Collects.recorded (before : List Exchange)
    (collects : Collects b table request pageSize patience collected start s log result s') :
    Collects b.recorded table request pageSize patience collected start (s,before) log result (s',before ++ log) := by
  induction collects generalizing before with
  | enough full =>
    rw [List.append_nil]
    exact .enough full
  | unfinished wanted =>
    rw [List.append_nil]
    exact .unfinished wanted
  | failed wanted ran => exact .failed wanted (ran_recorded ran)
  | last wanted ran ends => exact .last wanted (ran_recorded ran) ends
  | next wanted ran goes _ ih =>
    rw [List.append_cons]
    exact .next wanted (ran_recorded ran) goes (ih _)

-- What a loop has asked for, and that its calls alone decide the result
-- unless it has no patience left.
theorem Collects.exchanges {before : List Exchange} (paged : 1 ≤ pageSize)
    (reached : Reached table request pageSize before collected start)
    (collects : Collects b table request pageSize patience collected start s log result s') :
    Asked table request pageSize (before ++ log) ∧
    ((Ended request (before ++ log) ∧ Answers (before ++ log) result ∧ ∀ patience', log.length ≤ patience' →
        Collects b table request pageSize patience' collected start s log result s') ∨
      (¬Ended request (before ++ log) ∧ log.length = patience ∧ result = .error .unfinished)) := by
  induction collects generalizing before with
  | enough full =>
    rw [List.append_nil]
    refine ⟨reached.asked,.inl ⟨reached.enough paged full,?_,fun _ _ => .enough full⟩⟩
    rw [reached.counted]
    exact .rows reached.fine
  | unfinished wanted =>
    rw [List.append_nil]
    exact ⟨reached.asked,.inr ⟨reached.not_ended wanted,rfl,rfl⟩⟩
  | @failed _ _ _ problem _ _ wanted ran =>
    have follows := reached.follows wanted (.error problem)
    refine ⟨reached.asked.snoc follows,.inl ⟨.last List.getLast?_concat nofun,
      .failed List.getLast?_concat rfl,?_⟩⟩
    intro patience' enough
    obtain ⟨left,rfl⟩ := Nat.exists_eq_add_of_le' enough
    exact .failed wanted ran
  | @last _ _ _ segment _ _ wanted ran ends =>
    have follows := reached.follows wanted (.ok segment)
    have nowhere : ∀ segment', (.ok segment : Except Failure Segment) = .ok segment' → segment'.next = none := by
      rintro _ ⟨⟩
      exact ends
    refine ⟨reached.asked.snoc follows,.inl ⟨.last List.getLast?_concat nowhere,?_,?_⟩⟩
    · rw [reached.counted]
      exact .snoc reached.fine rfl
    · intro patience' enough
      obtain ⟨left,rfl⟩ := Nat.exists_eq_add_of_le' enough
      exact .last wanted ran ends
  | @next _ _ _ segment _ _ _ _ _ _ wanted ran goes more ih =>
    have follows := reached.follows wanted (.ok segment)
    obtain ⟨asked,outcome⟩ := ih (reached.next follows rfl goes)
    rw [← List.append_cons] at asked outcome
    refine ⟨asked,?_⟩
    rcases outcome with ⟨ended,answers,patient⟩ | ⟨unended,length,unfinished⟩
    · refine .inl ⟨ended,answers,?_⟩
      intro patience' enough
      obtain ⟨left,rfl⟩ := Nat.exists_eq_add_of_le' enough
      exact .next wanted ran goes (patient _ (Nat.le_add_left ..))
    · exact .inr ⟨unended,congrArg (· + 1) length,unfinished⟩

theorem Collects.query
    (collects : Collects b table request pageSize (b.patience s table) [] none s log result s') :
    Ran (b.query table request pageSize) s (result.map (limited request.take)) s' := by
  unfold Backend.query
  refine Ran.bind (Ran.get s) ?_
  cases result with
  | error problem => exact Ran.bind_failed collects.ran
  | ok rows =>
    refine Ran.bind collects.ran ?_
    cases request.take with
    | none => exact Ran.pure _ _
    | some n => exact Ran.pure _ _

-- Another store with the same segments answers in the same way.
theorem Collects.transfer (same : b'.segment = b.segment)
    (collects : Collects b table request pageSize patience collected start s log result s') :
    Collects b' table request pageSize patience collected start s log result s' := by
  induction collects with
  | enough full => exact .enough full
  | unfinished wanted => exact .unfinished wanted
  | failed wanted ran => exact .failed wanted (same ▸ ran)
  | last wanted ran ends => exact .last wanted (same ▸ ran) ends
  | next wanted ran goes _ ih => exact .next wanted (same ▸ ran) goes ih

end

-- Every call of a query is the next one after those before it. Once a segment
-- goes nowhere or enough rows came, or a call failed, no further call is made,
-- and the result is what came, cut short, or the failure; it is the same for
-- any patience that these calls need. A query that is not at its end by then
-- has lost its patience.
theorem query_exchanges {σ : Type} (b : Backend σ) (table : String) (request : Request) {pageSize : Nat}
    (paged : 1 ≤ pageSize) {s s' : σ} {log : List Exchange} {result : Except Failure (List Bag)}
    (ran : Ran (b.recorded.query table request pageSize) (s,[]) result (s',log)) :
    Ran (b.query table request pageSize) s result s' ∧
    Asked table request pageSize log ∧
    (Ended request log → (∃ whole, Answers log whole ∧ result = whole.map (limited request.take)) ∧
      ∀ b' : Backend σ, b'.segment = b.segment → log.length ≤ b'.patience s table →
        Ran (b'.query table request pageSize) s result s') ∧
    (¬Ended request log → log.length = b.patience s table ∧ result = .error .unfinished) := by
  obtain ⟨calls,whole,final,collects⟩ :=
    collects_exists b table request pageSize (b.patience s table) [] none s
  obtain ⟨cut,states⟩ := ran.unique (collects.recorded []).query
  cases states
  subst cut
  obtain ⟨asked,outcome⟩ := collects.exchanges paged .nil
  refine ⟨collects.query,asked,?_,?_⟩
  · intro ended
    rcases outcome with ⟨_,answers,patient⟩ | ⟨unended,_⟩
    · refine ⟨⟨whole,answers,rfl⟩,?_⟩
      intro b' same enough
      exact ((patient _ enough).transfer same).query
    · exact absurd ended unended
  · intro unended
    rcases outcome with ⟨ended,_⟩ | ⟨_,length,unfinished⟩
    · exact absurd ended unended
    · exact ⟨length,congrArg (Except.map _) unfinished⟩

-- A store that has its answers ready.
def scripted : Backend (List (Except Failure Segment)) where
  segment _ _ _ _ := ExceptT.mk do
    match ← get with
    | [] => return .error .unfinished
    | answer :: later => set later; return answer
  write _ _ row := pure row
  patience answers _ := answers.length

def city (name : String) : Bag := .ofList [(Column.rowKey,Value.string name)]

def script : List (Except Failure Segment) :=
  [.ok ⟨[],some ⟨"a","1"⟩⟩,.ok ⟨[city "Espoo",city "Helsinki",city "Oulu"],some ⟨"a","2"⟩⟩,
   .ok ⟨[city "Tampere",city "Turku"],some ⟨"a","3"⟩⟩,.error (.other "offline")]

-- An empty segment and two with more rows than were asked for.
def scriptLog : List Exchange :=
  [⟨"cities",⟨none,some 4⟩,2,none,.ok ⟨[],some ⟨"a","1"⟩⟩⟩,
   ⟨"cities",⟨none,some 4⟩,2,some ⟨"a","1"⟩,
    .ok ⟨[city "Espoo",city "Helsinki",city "Oulu"],some ⟨"a","2"⟩⟩⟩,
   ⟨"cities",⟨none,some 4⟩,1,some ⟨"a","2"⟩,.ok ⟨[city "Tampere",city "Turku"],some ⟨"a","3"⟩⟩⟩]

theorem query_exchanges_scripted : 1 ≤ 2 ∧
    Ran (scripted.recorded.query "cities" ⟨none,some 4⟩ 2) (script,[])
      (.ok [city "Espoo",city "Helsinki",city "Oulu",city "Tampere"]) ([.error (.other "offline")],scriptLog) ∧
    Asked "cities" ⟨none,some 4⟩ 2 scriptLog ∧ Ended ⟨none,some 4⟩ scriptLog ∧
    Ran (scripted.query "cities" ⟨none,some 4⟩ 2) script
      (.ok [city "Espoo",city "Helsinki",city "Oulu",city "Tampere"]) [.error (.other "offline")] := by
  have ran : Ran (scripted.recorded.query "cities" ⟨none,some 4⟩ 2) (script,[])
      (.ok [city "Espoo",city "Helsinki",city "Oulu",city "Tampere"])
      ([.error (.other "offline")],scriptLog) := by rfl
  obtain ⟨plain,asked,_⟩ := query_exchanges scripted "cities" ⟨none,some 4⟩ (Nat.le_succ 1) ran
  have full : 4 ≤ (received scriptLog).length := by decide
  exact ⟨Nat.le_succ 1,ran,asked,.enough rfl full,plain⟩

end Backend
end TypedTable
