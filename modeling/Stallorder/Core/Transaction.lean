import Mathlib

/-!
# Statements in and outside transactions

A program sends statements to a database and may catch their errors.  Outside a
transaction each statement commits by itself.  Inside one, a failed statement
aborts the transaction: every further statement fails, and nothing that the
transaction wrote is kept.
-/

namespace Stallorder.Transaction

variable {Db Error Value Result : Type}

/-- A connection to the database. -/
structure Session (Db : Type) where
  db : Db
  inTransaction : Bool
  aborted : Bool

def Session.standalone (db : Db) : Session Db := ⟨db, false, false⟩

def Session.begin (db : Db) : Session Db := ⟨db, true, false⟩

/-- What a program does on a connection, and how it ends. -/
def Program (Db Error Value : Type) : Type :=
  Session Db → Except Error Value × Session Db

namespace Program

def bind (first : Program Db Error Value) (next : Value → Program Db Error Result) :
    Program Db Error Result := fun session =>
  match first session with
  | (.ok value, session') => next value session'
  | (.error error, session') => (.error error, session')

instance : Monad (Program Db Error) where
  pure value session := (.ok value, session)
  bind := bind

/-- End with an error of the program itself. -/
def raise (error : Error) : Program Db Error Value := fun session => (.error error, session)

/-- Go on with `handler` after an error. -/
def catchError (program : Program Db Error Value) (handler : Error → Program Db Error Value) :
    Program Db Error Value := fun session =>
  match program session with
  | (.ok value, session') => (.ok value, session')
  | (.error error, session') => handler error session'

def failWhen (condition : Bool) (error : Error) : Program Db Error Unit :=
  if condition then raise error else pure ()

def orFail (value : Option Value) (error : Error) : Program Db Error Value :=
  match value with
  | some result => pure result
  | none => raise error

/-- One statement; `refused` is the error of a statement in an aborted transaction. -/
def statement (refused : Error) (run : Db → Except Error (Value × Db)) :
    Program Db Error Value := fun session =>
  if session.aborted then
    (.error refused, session)
  else
    match run session.db with
    | .ok (value, db) => (.ok value, { session with db })
    | .error error => (.error error, { session with aborted := session.inTransaction })

/-- A statement that only reads. -/
def query (refused : Error) (read : Db → Value) : Program Db Error Value :=
  statement refused fun db => .ok (read db, db)

variable {first : Program Db Error Value} {next : Value → Program Db Error Result}
variable {session session' : Session Db} {result : Result} {value : Value} {error : Error}

theorem run_bind_of_ok {middle : Session Db} (hfirst : first session = (.ok value, middle)) :
    (first >>= next) session = next value middle := by
  change bind first next session = _
  rw [bind, hfirst]

theorem run_bind_of_error {middle : Session Db} (hfirst : first session = (.error error, middle)) :
    (first >>= next) session = (.error error, middle) := by
  change bind first next session = _
  rw [bind, hfirst]

/-- A program is run like any that starts alike. -/
theorem run_bind_congr {other : Program Db Error Value} {session other' : Session Db}
    (hsame : first session = other other') :
    (first >>= next) session = (other >>= next) other' := by
  change bind first next session = bind other next other'
  rw [bind, bind, hsame]

theorem bind_assoc {Final : Type} (first : Program Db Error Value)
    (next : Value → Program Db Error Result) (last : Result → Program Db Error Final) :
    (first >>= next) >>= last = first >>= fun value => next value >>= last := by
  funext session
  rcases hfirst : first session with ⟨outcome, middle⟩
  cases outcome with
  | ok value =>
      have hrest : (first >>= fun value => next value >>= last) session
          = (next value >>= last) middle := run_bind_of_ok hfirst
      rw [hrest]
      exact run_bind_congr (run_bind_of_ok hfirst)
  | error error =>
      rw [run_bind_of_error (run_bind_of_error hfirst), run_bind_of_error hfirst]

theorem bind_eq_ok : (first >>= next) session = (.ok result, session') ↔
    ∃ value middle, first session = (.ok value, middle)
      ∧ next value middle = (.ok result, session') := by
  rcases hfirst : first session with ⟨outcome, middle⟩
  cases outcome with
  | ok value =>
      rw [run_bind_of_ok hfirst]
      constructor
      · intro hnext
        exact ⟨value, middle, rfl, hnext⟩
      · rintro ⟨_, _, hsame, hnext⟩
        cases hsame
        exact hnext
  | error error =>
      rw [run_bind_of_error hfirst]
      constructor
      · intro hok
        cases hok
      · rintro ⟨_, _, hsame, -⟩
        cases hsame

@[simp]
theorem pure_eq_ok {returned : Value} :
    (pure returned : Program Db Error Value) session = (.ok value, session')
      ↔ value = returned ∧ session' = session := by
  change (Except.ok returned, session) = (Except.ok value, session') ↔ _
  rw [Prod.mk.injEq, Except.ok.injEq, eq_comm, @eq_comm _ session]

@[simp]
theorem raise_ne_ok : (raise error : Program Db Error Value) session ≠ (.ok value, session') := by
  intro hok
  cases hok

@[simp]
theorem failWhen_eq_ok {condition : Bool} {done : Unit} :
    (failWhen condition error : Program Db Error Unit) session = (.ok done, session')
      ↔ condition = false ∧ session' = session := by
  cases condition with
  | true =>
      constructor
      · intro hok
        cases hok
      · rintro ⟨hfalse, -⟩
        cases hfalse
  | false =>
      rw [failWhen, if_neg Bool.false_ne_true, pure_eq_ok]
      simp

@[simp]
theorem orFail_eq_ok {found : Option Value} :
    (orFail found error : Program Db Error Value) session = (.ok value, session')
      ↔ found = some value ∧ session' = session := by
  cases found with
  | none =>
      constructor
      · intro hok
        cases hok
      · rintro ⟨hnone, -⟩
        cases hnone
  | some returned => rw [orFail, pure_eq_ok, Option.some_inj, eq_comm]

section Statement

variable {refused : Error} {run : Db → Except Error (Value × Db)}

theorem statement_eq_ok : statement refused run session = (.ok value, session') ↔
    session.aborted = false
      ∧ ∃ db, run session.db = .ok (value, db) ∧ session' = { session with db } := by
  unfold statement
  cases haborted : session.aborted with
  | true => simp
  | false =>
      rcases hrun : run session.db with error | ⟨returned, db⟩
      · simp
      · simp only [Bool.false_eq_true, if_false, Prod.mk.injEq, Except.ok.injEq, true_and]
        constructor
        · rintro ⟨rfl, rfl⟩
          exact ⟨db, ⟨rfl, rfl⟩, rfl⟩
        · rintro ⟨_, ⟨rfl, rfl⟩, rfl⟩
          exact ⟨rfl, rfl⟩

theorem run_statement_of_error (hlive : session.aborted = false)
    (hrun : run session.db = .error error) :
    statement refused run session
      = (.error error, { session with aborted := session.inTransaction }) := by
  simp [statement, hlive, hrun]

theorem run_statement_of_aborted (haborted : session.aborted = true) :
    statement refused run session = (.error refused, session) := by
  simp [statement, haborted]

theorem query_eq_ok {read : Db → Value} :
    query refused read session = (.ok value, session') ↔
      session.aborted = false ∧ value = read session.db ∧ session' = session := by
  rw [query, statement_eq_ok]
  constructor
  · rintro ⟨hlive, db, hread, rfl⟩
    cases hread
    exact ⟨hlive, rfl, rfl⟩
  · rintro ⟨hlive, rfl, rfl⟩
    exact ⟨hlive, session'.db, rfl, rfl⟩

end Statement

/-! ## Transactions -/

/-- Run the program in a transaction, which commits unless the program ends with
an error or a statement failed in it. -/
def transact (program : Program Db Error Value) (db : Db) : Except Error Value × Db :=
  match program (.begin db) with
  | (.ok value, session) => (.ok value, if session.aborted then db else session.db)
  | (.error error, _) => (.error error, db)

theorem transact_of_error {db : Db} {program : Program Db Error Value}
    (hprogram : program (.begin db) = (.error error, session)) :
    transact program db = (.error error, db) := by
  rw [transact, hprogram]

theorem transact_of_ok {db : Db} {program : Program Db Error Value}
    (hprogram : program (.begin db) = (.ok value, session)) (hlive : session.aborted = false) :
    transact program db = (.ok value, session.db) := by
  simp [transact, hprogram, hlive]

/-- A transaction leaves no trace, or its program went through. -/
theorem transact_cases (program : Program Db Error Value) (db : Db) :
    (transact program db).2 = db
      ∨ ∃ value session, program (.begin db) = (.ok value, session)
        ∧ session.aborted = false ∧ transact program db = (.ok value, session.db) := by
  rcases hprogram : program (.begin db) with ⟨outcome, session⟩
  cases outcome with
  | error error =>
      left
      rw [transact_of_error hprogram]
  | ok value =>
      cases haborted : session.aborted with
      | true =>
          left
          simp [transact, hprogram, haborted]
      | false =>
          right
          exact ⟨value, session, rfl, haborted, transact_of_ok hprogram haborted⟩

/-! ## What a program does to the database -/

/-- How a database may move on. -/
class Evolution (R : Db → Db → Prop) : Prop where
  refl : ∀ db, R db db
  trans : ∀ {first second third}, R first second → R second third → R first third

/-- However it ends, the program relates the database before to the one after. -/
def Moves (R : Db → Db → Prop) (program : Program Db Error Value) : Prop :=
  ∀ session, R session.db (program session).2.db

section Moves

variable {R : Db → Db → Prop} [Evolution R] {refused : Error}

theorem moves_pure (value : Value) : Moves R (pure value : Program Db Error Value) :=
  fun session => Evolution.refl session.db

theorem moves_raise (error : Error) : Moves R (raise error : Program Db Error Value) :=
  fun session => Evolution.refl session.db

theorem moves_failWhen (condition : Bool) (error : Error) :
    Moves R (failWhen condition error : Program Db Error Unit) := by
  cases condition with
  | true => exact moves_raise error
  | false => exact moves_pure ()

theorem moves_orFail (found : Option Value) (error : Error) :
    Moves R (orFail found error : Program Db Error Value) := by
  cases found with
  | none => exact moves_raise error
  | some value => exact moves_pure value

theorem moves_statement {run : Db → Except Error (Value × Db)}
    (hrun : ∀ {db value db'}, run db = .ok (value, db') → R db db') :
    Moves R (statement refused run) := by
  intro session
  unfold statement
  cases haborted : session.aborted with
  | true => exact Evolution.refl session.db
  | false =>
      simp only [Bool.false_eq_true, if_false]
      cases houtcome : run session.db with
      | ok outcome => exact hrun houtcome
      | error error => exact Evolution.refl session.db

theorem moves_query (read : Db → Value) : Moves R (query refused read) := by
  apply moves_statement
  intro db value db' hread
  cases hread
  exact Evolution.refl db

theorem moves_bind (hfirst : Moves R first) (hnext : ∀ value, Moves R (next value)) :
    Moves R (first >>= next) := by
  intro session
  have hmiddle := hfirst session
  rcases hrun : first session with ⟨outcome, middle⟩
  rw [hrun] at hmiddle
  cases outcome with
  | ok value =>
      rw [run_bind_of_ok hrun]
      exact Evolution.trans hmiddle (hnext value middle)
  | error error =>
      rw [run_bind_of_error hrun]
      exact hmiddle

theorem moves_catchError {handler : Error → Program Db Error Value} (hfirst : Moves R first)
    (hhandler : ∀ error, Moves R (handler error)) : Moves R (catchError first handler) := by
  intro session
  have hmiddle := hfirst session
  unfold catchError
  rcases hrun : first session with ⟨outcome, middle⟩
  rw [hrun] at hmiddle
  cases outcome with
  | ok value => exact hmiddle
  | error error => exact Evolution.trans hmiddle (hhandler error middle)

theorem moves_transact {program : Program Db Error Value} (hprogram : Moves R program)
    (db : Db) : R db (transact program db).2 := by
  rcases transact_cases program db with hsame | ⟨value, session, hrun, -, hcommit⟩
  · rw [hsame]
    exact Evolution.refl db
  · have hmoved := hprogram (.begin db)
    rw [hrun] at hmoved
    rw [hcommit]
    exact hmoved

end Moves

/-! ## What a program that goes through does -/

/-- When it goes through on this connection, the program ends as `post` says. -/
def Ensures (post : Value → Session Db → Prop) (program : Program Db Error Value)
    (session : Session Db) : Prop :=
  ∀ value session', program session = (.ok value, session') → post value session'

section Ensures

variable {post : Result → Session Db → Prop} {refused : Error}

theorem ensures_bind
    (hnext : ∀ {value middle}, first session = (.ok value, middle) →
      Ensures post (next value) middle) :
    Ensures post (first >>= next) session := by
  intro result session' hrun
  obtain ⟨value, middle, hok, hrest⟩ := bind_eq_ok.mp hrun
  exact hnext hok result session' hrest

/-- What a query read is what the database holds when the program goes on. -/
theorem ensures_query_bind {read : Db → Value}
    (hnext : Ensures post (next (read session.db)) session) :
    Ensures post (query refused read >>= next) session := by
  apply ensures_bind
  intro value middle hquery
  obtain ⟨-, rfl, rfl⟩ := query_eq_ok.mp hquery
  exact hnext

theorem ensures_failWhen_bind {condition : Bool} {error : Error}
    {next : Unit → Program Db Error Result}
    (hnext : condition = false → Ensures post (next ()) session) :
    Ensures post (failWhen condition error >>= next) session := by
  apply ensures_bind
  intro _ middle hcheck
  obtain ⟨hfalse, rfl⟩ := failWhen_eq_ok.mp hcheck
  exact hnext hfalse

theorem ensures_orFail_bind {found : Option Value} {error : Error}
    (hnext : ∀ value, found = some value → Ensures post (next value) session) :
    Ensures post (orFail found error >>= next) session := by
  apply ensures_bind
  intro value middle hfound
  obtain ⟨hsome, rfl⟩ := orFail_eq_ok.mp hfound
  exact hnext value hsome

end Ensures

/-- When it goes through on this connection, the program relates the database
before to the one after. -/
def Yields (R : Db → Db → Prop) (program : Program Db Error Value) (session : Session Db) : Prop :=
  ∀ value session', program session = (.ok value, session') → R session.db session'.db

section Yields

variable {R : Db → Db → Prop} {program : Program Db Error Value} {refused : Error}

theorem yields_of_moves (hmoves : Moves R program) (session : Session Db) :
    Yields R program session := by
  intro value session' hrun
  have hmoved := hmoves session
  rw [hrun] at hmoved
  exact hmoved

theorem yields_statement {run : Db → Except Error (Value × Db)}
    (hrun : ∀ {value db'}, run session.db = .ok (value, db') → R session.db db') :
    Yields R (statement refused run) session := by
  intro value session' hstatement
  obtain ⟨-, db', hok, rfl⟩ := statement_eq_ok.mp hstatement
  exact hrun hok

/-- The second part starts where the first one ended. -/
theorem yields_bind [Evolution R] (hfirst : Yields R first session)
    (hnext : ∀ {value middle}, first session = (.ok value, middle) → Yields R (next value) middle) :
    Yields R (first >>= next) session := by
  apply ensures_bind
  intro value middle hok result session' hrest
  exact Evolution.trans (hfirst value middle hok) (hnext hok result session' hrest)

theorem yields_query_bind {read : Db → Value}
    (hnext : Yields R (next (read session.db)) session) :
    Yields R (query refused read >>= next) session :=
  ensures_query_bind hnext

theorem yields_failWhen_bind {condition : Bool} {error : Error}
    {next : Unit → Program Db Error Result}
    (hnext : condition = false → Yields R (next ()) session) :
    Yields R (failWhen condition error >>= next) session :=
  ensures_failWhen_bind hnext

theorem yields_orFail_bind {found : Option Value} {error : Error}
    (hnext : ∀ value, found = some value → Yields R (next value) session) :
    Yields R (orFail found error >>= next) session :=
  ensures_orFail_bind hnext

theorem yields_transact [Evolution R] {db : Db} (hyields : Yields R program (.begin db)) :
    R db (transact program db).2 := by
  rcases transact_cases program db with hsame | ⟨value, session, hrun, -, hcommit⟩
  · rw [hsame]
    exact Evolution.refl db
  · rw [hcommit]
    exact hyields value session hrun

end Yields

end Program

end Stallorder.Transaction
