import Stallorder.Billing.AutomaticClose

/-!
# Steps of an invocation

What a step of an invocation can do to the tables and to the invocation itself.
Seen from one period it is one of a few moves: the job of the period is created,
claimed and recorded, and between the last two the period is closed.
-/

namespace Stallorder.CloseSteps

open OrderContract AutomaticClose Billing

variable {tables tables' : CloseTables} {invocation invocation' : Invocation}
  {subscription : BilledSubscription} {period : Uuid × ℤ} {input : WorkInput}

/-! ## Time zones -/

/-- The cycle of the subscription is a calendar month of a known time zone. -/
def supported (subscription : BilledSubscription) : Bool :=
  (assertSupportedBillingCycle subscription.contract).isOk

/-- A subscription without a supported cycle ends the invocation that looks at it. -/
def passable (subscription : BilledSubscription) : Bool :=
  subscription.invoiceCloseDelayHours.isNone || supported subscription

theorem exists_closeAfter (hsupported : supported subscription = true) (delayHours : ℤ) :
    ∃ closeAfter, subscription.closeAfter delayHours = .ok closeAfter := by
  rw [BilledSubscription.closeAfter, billingPeriodEndInstant]
  rw [supported] at hsupported
  cases hzone : assertSupportedBillingCycle subscription.contract with
  | error failure =>
      rw [hzone] at hsupported
      cases hsupported
  | ok zone => exact ⟨_, rfl⟩

theorem supported_of_closeAfter {delayHours closeAfter : ℤ}
    (hclose : subscription.closeAfter delayHours = .ok closeAfter) :
    supported subscription = true := by
  rw [BilledSubscription.closeAfter, billingPeriodEndInstant] at hclose
  rw [supported]
  cases hzone : assertSupportedBillingCycle subscription.contract with
  | error failure =>
      rw [hzone] at hclose
      cases hclose
  | ok zone => rfl

/-! ## What a step does -/

/-- The step does not claim a job or close a period. -/
def isIdle : WorkStage → Bool
  | .upserted => false
  | .closing => false
  | _ => true

/-- The invocation has the same subscriptions before it, at another stage. -/
structure At (stage : WorkStage) (invocation invocation' : Invocation) : Prop where
  remaining : invocation'.remaining = invocation.remaining
  stage : invocation'.stage = stage

/-- The invocation is through with its first subscription. -/
structure Past (invocation invocation' : Invocation) : Prop where
  remaining : invocation'.remaining = invocation.remaining.tail
  stage : invocation'.stage = .next

inductive WorkStep (tables : CloseTables) (invocation : Invocation) :
    CloseTables → Invocation → Prop
  | finish {invocation' : Invocation}
      (hidle : invocation.remaining.head? = none ∨ isIdle invocation.stage = true)
      (hended : invocation'.stage = .ended) :
      WorkStep tables invocation tables invocation'
  | skip {invocation' : Invocation} {subscription : BilledSubscription}
      (hhead : invocation.remaining.head? = some subscription)
      (hstage : invocation.stage = .next ∧ passable subscription = true
        ∨ invocation.stage = .upserted
          ∧ (tables.jobs.get? subscription.period).any (·.claimable) = false)
      (hpast : Past invocation invocation') :
      WorkStep tables invocation tables invocation'
  | find {invocation' : Invocation} {subscription : BilledSubscription}
      (hhead : invocation.remaining.head? = some subscription)
      (hstage : invocation.stage = .next) (hpassable : passable subscription = true)
      (hat : At .upserted invocation invocation') :
      WorkStep tables invocation tables invocation'
  | create {invocation' : Invocation} {subscription : BilledSubscription}
      (hhead : invocation.remaining.head? = some subscription)
      (hstage : invocation.stage = .next) (hpassable : passable subscription = true)
      (hnone : tables.jobs.get? subscription.period = none)
      (hat : At .upserted invocation invocation') :
      WorkStep tables invocation { tables with jobs := tables.jobs.put (newJob subscription) }
        invocation'
  | claim {invocation' : Invocation} {subscription : BilledSubscription} {job : PaygCloseJob}
      (requestId : Text) (now : Timestamp)
      (hhead : invocation.remaining.head? = some subscription)
      (hstage : invocation.stage = .upserted)
      (hjob : tables.jobs.get? subscription.period = some job)
      (hclaimable : job.claimable = true)
      (hat : At .closing invocation invocation') :
      WorkStep tables invocation
        { tables with jobs := tables.jobs.put (claimed job requestId now) } invocation'
  | close {invocation' : Invocation} {subscription : BilledSubscription} (closes : Bool)
      (errorCode : Option Text)
      (hhead : invocation.remaining.head? = some subscription)
      (hstage : invocation.stage = .closing)
      (hat : At (.recording errorCode) invocation invocation') :
      WorkStep tables invocation
        (if closes then
            { tables with subscriptions := closedIn tables.subscriptions subscription.period }
          else tables) invocation'
  | retry {invocation' : Invocation} {errorCode errorCode' : Option Text}
      (hstage : invocation.stage = .recording errorCode)
      (hat : At (.recording errorCode') invocation invocation') :
      WorkStep tables invocation tables invocation'
  | record {invocation' : Invocation} {subscription : BilledSubscription} {job : PaygCloseJob}
      {errorCode : Option Text} (clock : Timestamp)
      (hhead : invocation.remaining.head? = some subscription)
      (hstage : invocation.stage = .recording errorCode)
      (hjob : tables.jobs.get? subscription.period = some job)
      (hpast : Past invocation invocation') :
      WorkStep tables invocation
        { tables with jobs := tables.jobs.put (recorded job errorCode clock) } invocation'

theorem lookAt_step (hhead : invocation.remaining.head? = some subscription)
    (hstage : invocation.stage = .next) :
    WorkStep tables invocation (lookAt tables invocation subscription).1
      (lookAt tables invocation subscription).2 := by
  rw [lookAt]
  cases hdelay : subscription.invoiceCloseDelayHours with
  | none =>
      have hpassable : passable subscription = true := by rw [passable, hdelay]; rfl
      exact .skip hhead (.inl ⟨hstage, hpassable⟩) ⟨rfl, rfl⟩
  | some delayHours =>
      dsimp only
      cases hclose : subscription.closeAfter delayHours with
      | error failure =>
          dsimp only
          exact .finish (.inr (by rw [hstage]; rfl)) rfl
      | ok closeAfter =>
          dsimp only
          have hpassable : passable subscription = true := by
            rw [passable, supported_of_closeAfter hclose, Bool.or_true]
          by_cases hdue : invocation.now < closeAfter
          · rw [if_pos hdue]
            exact .skip hhead (.inl ⟨hstage, hpassable⟩) ⟨rfl, rfl⟩
          · rw [if_neg hdue]
            cases hjob : tables.jobs.get? subscription.period with
            | none =>
                dsimp only
                exact .create hhead hstage hpassable hjob ⟨rfl, rfl⟩
            | some job =>
                dsimp only
                by_cases hpassed : job.passedBy = true
                · rw [if_pos hpassed]
                  exact .skip hhead (.inl ⟨hstage, hpassable⟩) ⟨rfl, rfl⟩
                · rw [if_neg hpassed]
                  exact .find hhead hstage hpassable ⟨rfl, rfl⟩

theorem claim_step (requestId : Text) (hhead : invocation.remaining.head? = some subscription)
    (hstage : invocation.stage = .upserted) :
    WorkStep tables invocation (claim tables invocation subscription requestId).1
      (claim tables invocation subscription requestId).2 := by
  rw [claim]
  cases hjob : tables.jobs.get? subscription.period with
  | none => exact .skip hhead (.inr ⟨hstage, by rw [hjob]; rfl⟩) ⟨rfl, rfl⟩
  | some job =>
      by_cases hclaimable : job.claimable = true
      · simp only [hclaimable, if_true]
        exact .claim requestId _ hhead hstage hjob hclaimable ⟨rfl, rfl⟩
      · have hrefused : (tables.jobs.get? subscription.period).any (·.claimable) = false := by
          rw [hjob]
          exact Bool.eq_false_iff.mpr hclaimable
        simp only [hclaimable]
        exact .skip hhead (.inr ⟨hstage, hrefused⟩) ⟨rfl, rfl⟩

theorem record_step {errorCode : Option Text}
    (hhead : invocation.remaining.head? = some subscription)
    (hstage : invocation.stage = .recording errorCode) :
    WorkStep tables invocation (record tables invocation subscription errorCode input).1
      (record tables invocation subscription errorCode input).2 := by
  rw [record]
  by_cases hfails : input.writeFails = true
  · rw [if_pos hfails]
    by_cases herror : errorCode.isSome = true
    · rw [if_pos herror]
      exact .finish (.inr (by rw [hstage]; rfl)) rfl
    · rw [if_neg herror]
      exact .retry hstage ⟨rfl, rfl⟩
  · rw [if_neg hfails]
    cases hjob : tables.jobs.get? subscription.period with
    | none => exact .finish (.inr (by rw [hstage]; rfl)) rfl
    | some job => exact .record input.clock hhead hstage hjob ⟨rfl, rfl⟩

section Heads

variable {rest : List BilledSubscription}
  (hremaining : invocation.remaining = subscription :: rest)

include hremaining

theorem work_next (hstage : invocation.stage = .next) :
    work tables invocation input = lookAt tables invocation subscription := by
  rw [work, hstage, hremaining]

theorem work_upserted (hstage : invocation.stage = .upserted) :
    work tables invocation input = claim tables invocation subscription input.requestId := by
  rw [work, hstage, hremaining]

theorem work_closing (hstage : invocation.stage = .closing) :
    work tables invocation input = close tables invocation subscription input.outcome := by
  rw [work, hstage, hremaining]

theorem work_recording {errorCode : Option Text}
    (hstage : invocation.stage = .recording errorCode) :
    work tables invocation input = record tables invocation subscription errorCode input := by
  rw [work, hstage, hremaining]

end Heads

/-- Every step of an invocation is one of these. -/
theorem work_step (tables : CloseTables) (invocation : Invocation) (input : WorkInput) :
    WorkStep tables invocation (work tables invocation input).1
      (work tables invocation input).2 := by
  cases hremaining : invocation.remaining with
  | nil =>
      have hended : (work tables invocation input) = (tables, invocation)
            ∧ invocation.stage = .ended
          ∨ work tables invocation input = (tables, invocation.finish) := by
        rw [work, hremaining]
        cases hstage : invocation.stage with
        | ended => exact .inl ⟨rfl, rfl⟩
        | _ => exact .inr rfl
      have hnone : invocation.remaining.head? = none := by rw [hremaining]; rfl
      cases hended with
      | inl hstill =>
          rw [hstill.1]
          exact .finish (.inl hnone) hstill.2
      | inr hfinished =>
          rw [hfinished]
          exact .finish (.inl hnone) rfl
  | cons subscription rest =>
      have hhead : invocation.remaining.head? = some subscription := by rw [hremaining]; rfl
      cases hstage : invocation.stage with
      | ended =>
          have hstill : work tables invocation input = (tables, invocation) := by
            rw [work, hstage]
          rw [hstill]
          exact .finish (.inr (by rw [hstage]; rfl)) hstage
      | next =>
          rw [work_next hremaining hstage]
          exact lookAt_step hhead hstage
      | upserted =>
          rw [work_upserted hremaining hstage]
          exact claim_step _ hhead hstage
      | closing =>
          rw [work_closing hremaining hstage]
          exact .close input.outcome.closes _ hhead hstage ⟨rfl, rfl⟩
      | recording errorCode =>
          rw [work_recording hremaining hstage]
          exact record_step hhead hstage

/-- An invocation goes through its subscriptions in their order. -/
theorem WorkStep.remaining (hstep : WorkStep tables invocation tables' invocation')
    (hlive : invocation'.stage ≠ .ended) :
    invocation.stage ≠ .ended ∧ invocation'.remaining <:+ invocation.remaining := by
  have hpassed : invocation.remaining.tail <:+ invocation.remaining := List.tail_suffix _
  cases hstep with
  | finish hidle hended => exact absurd hended hlive
  | skip hhead hstage hpast =>
      rw [hpast.remaining]
      cases hstage with
      | inl hnext => exact ⟨by simp [hnext.1], hpassed⟩
      | inr hupserted => exact ⟨by simp [hupserted.1], hpassed⟩
  | find hhead hstage hpassable hat => exact ⟨by simp [hstage], by rw [hat.remaining]⟩
  | create hhead hstage hpassable hnone hat => exact ⟨by simp [hstage], by rw [hat.remaining]⟩
  | claim requestId now hhead hstage hjob hclaimable hat =>
      exact ⟨by simp [hstage], by rw [hat.remaining]⟩
  | close closes errorCode hhead hstage hat => exact ⟨by simp [hstage], by rw [hat.remaining]⟩
  | retry hstage hat => exact ⟨by simp [hstage], by rw [hat.remaining]⟩
  | record clock hhead hstage hjob hpast =>
      rw [hpast.remaining]
      exact ⟨by simp [hstage], hpassed⟩

/-- An invocation that is through with a subscription has not been ended by it. -/
theorem WorkStep.passed (hstep : WorkStep tables invocation tables' invocation')
    (hlive : invocation'.stage ≠ .ended) :
    invocation'.remaining = invocation.remaining
      ∨ invocation'.remaining = invocation.remaining.tail
        ∧ ∀ subscription, invocation.remaining.head? = some subscription →
          invocation.stage = .next → passable subscription = true := by
  cases hstep with
  | finish hidle hended => exact absurd hended hlive
  | skip hhead hstage hpast =>
      refine .inr ⟨hpast.remaining, fun other hother hnext => ?_⟩
      rw [hhead] at hother
      cases hother
      cases hstage with
      | inl hpassed => exact hpassed.2
      | inr hupserted =>
          rw [hnext] at hupserted
          cases hupserted.1
  | find hhead hstage hpassable hat => exact .inl hat.remaining
  | create hhead hstage hpassable hnone hat => exact .inl hat.remaining
  | claim requestId now hhead hstage hjob hclaimable hat => exact .inl hat.remaining
  | close closes errorCode hhead hstage hat => exact .inl hat.remaining
  | retry hstage hat => exact .inl hat.remaining
  | record clock hhead hstage hjob hpast =>
      refine .inr ⟨hpast.remaining, fun other _ hnext => ?_⟩
      rw [hnext] at hstage
      cases hstage

/-- Only the closing of a period changes a subscription. -/
theorem WorkStep.subscriptions (hstep : WorkStep tables invocation tables' invocation') :
    tables'.subscriptions = tables.subscriptions
      ∨ ∃ subscription, invocation.remaining.head? = some subscription
        ∧ invocation.stage = .closing
        ∧ tables'.subscriptions = closedIn tables.subscriptions subscription.period := by
  cases hstep with
  | close closes errorCode hhead hstage hat =>
      cases closes with
      | true => exact .inr ⟨_, hhead, hstage, rfl⟩
      | false => exact .inl rfl
  | _ => exact .inl rfl

theorem mem_closedIn {subscriptions : Table BilledSubscription}
    {stored : BilledSubscription} :
    stored ∈ closedIn subscriptions period ↔
      ∃ old ∈ subscriptions, (if old.id = period.1 then old.closed period.2 else old) = stored :=
  Table.mem_rewrite _

/-! ## What a command does -/

inductive DbStep (db : CloseDb) : CloseCommand → CloseDb → Prop
  | stay {command : CloseCommand}
      (habsent : ∀ position input, command = .work position input →
        db.invocations[position]? = none) :
      DbStep db command db
  | enter (state : ExperienceState) (now : Timestamp) :
      DbStep db (.invoke state now)
        { db with invocations := db.invocations ++ [⟨now, db.tables.batch, .next, .empty⟩] }
  | work {position : ℕ} {invocation invocation' : Invocation} {tables' : CloseTables}
      (input : WorkInput) (hinvocation : db.invocations[position]? = some invocation)
      (hstep : WorkStep db.tables invocation tables' invocation') :
      DbStep db (.work position input) ⟨tables', db.invocations.set position invocation'⟩
  | crash {position : ℕ} {invocation : Invocation}
      (hinvocation : db.invocations[position]? = some invocation) :
      DbStep db (.crash position)
        { db with invocations := db.invocations.set position invocation.finish }

theorem db_step (db : CloseDb) (command : CloseCommand) :
    DbStep db command (step db command) := by
  cases command with
  | invoke state now =>
      rw [step, invoke]
      split_ifs with henabled
      · exact .enter state now
      · exact .stay fun position input hcommand => by cases hcommand
  | work position input =>
      cases hinvocation : db.invocations[position]? with
      | none =>
          rw [step, hinvocation]
          exact .stay fun other _ hcommand => by
            cases hcommand
            exact hinvocation
      | some invocation =>
          rw [step, hinvocation]
          exact .work input hinvocation (work_step _ _ _)
  | crash position =>
      cases hinvocation : db.invocations[position]? with
      | none =>
          rw [step, hinvocation]
          exact .stay fun other input hcommand => by cases hcommand
      | some invocation =>
          rw [step, hinvocation]
          exact .crash hinvocation

/-! ## Invocations under way -/

/-- The property holds of every invocation that has not ended. -/
def Underway (property : Invocation → Prop) (db : CloseDb) : Prop :=
  ∀ invocation ∈ db.invocations, invocation.stage ≠ .ended → property invocation

/-- What holds of a new invocation and is kept by its steps holds of all of them. -/
theorem Underway.step {property : Invocation → Prop} {db db' : CloseDb} {command : CloseCommand}
    (hall : Underway property db) (hstep : DbStep db command db')
    (hnew : ∀ now, property ⟨now, db.tables.batch, .next, .empty⟩)
    (hkept : ∀ invocation ∈ db.invocations, property invocation → ∀ {tables' invocation'},
      WorkStep db.tables invocation tables' invocation' → invocation'.stage ≠ .ended →
      property invocation') :
    Underway property db' := by
  cases hstep with
  | stay => exact hall
  | enter state now =>
      intro invocation hinvocation hlive
      cases List.mem_append.mp hinvocation with
      | inl hold => exact hall invocation hold hlive
      | inr hlast =>
          rw [List.mem_singleton.mp hlast]
          exact hnew now
  | work input hinvocation hstep =>
      intro other hother hlive
      cases List.mem_or_eq_of_mem_set hother with
      | inl hold => exact hall other hold hlive
      | inr hworked =>
          subst hworked
          have hmem := List.mem_of_getElem? hinvocation
          exact hkept _ hmem (hall _ hmem (hstep.remaining hlive).1) hstep hlive
  | crash hinvocation =>
      intro other hother hlive
      cases List.mem_or_eq_of_mem_set hother with
      | inl hold => exact hall other hold hlive
      | inr hended => exact absurd (by rw [hended]; rfl) hlive

end Stallorder.CloseSteps
