import Stallorder.Billing.CloseJobs

/-!
# Blocked periods

A period can be out of reach of every invocation to come.  Its job cannot be
claimed any more; or its subscription is behind one that ends each invocation,
or behind so many that cannot be claimed that no invocation takes it.
-/

namespace Stallorder.BlockedPeriods

open OrderContract AutomaticClose CloseSteps CloseJobs FirstOf

variable {db db' : CloseDb} {command : CloseCommand} {subscription : BilledSubscription}
  {period : Uuid × ℤ}

/-! ## Jobs that cannot be claimed -/

/-- Nobody holds the period, and nobody can claim it. -/
structure Stuck (seen : View) : Prop where
  refused : seen.job.any (!·.claimable) = true
  free : ∀ hold ∈ seen.holds, hold = .free

theorem Stuck.step {seen seen' : View} {move : Move} (hstuck : Stuck seen)
    (hstep : ViewStep seen move seen') : move = .quiet ∧ Stuck seen' := by
  cases hstep with
  | stay => exact ⟨rfl, hstuck⟩
  | enter job holds =>
      refine ⟨rfl, hstuck.refused, fun hold hhold => ?_⟩
      rcases List.mem_append.mp hhold with hold | hnew
      · exact hstuck.free _ hold
      · exact List.mem_singleton.mp hnew
  | @move job _ holds position before after _ hbefore hmoves =>
      have hfree : before = .free := hstuck.free before (List.mem_of_getElem? hbefore)
      have hstill : ∀ hold ∈ holds.set position .free, hold = .free := fun hold hhold => by
        rcases List.mem_or_eq_of_mem_set hhold with hold | hnew
        · exact hstuck.free _ hold
        · exact hnew
      have hrefused := hstuck.refused
      cases hmoves with
      | stay =>
          subst hfree
          exact ⟨rfl, hrefused, hstill⟩
      | leave => exact ⟨rfl, hrefused, hstill⟩
      | create subscription => cases hrefused
      | claim requestId now hclaimable =>
          rw [Option.any_some, hclaimable] at hrefused
          cases hrefused
      | close => cases hfree
      | record => cases hfree

/-! ## Subscriptions that stay as they are -/

/-- The subscription is stored, and the invocations under way have no other version of it. -/
structure Fresh (subscription : BilledSubscription) (db : CloseDb) : Prop where
  stored : subscription ∈ db.tables.subscriptions
  copies : Underway (fun invocation => ∀ copy ∈ invocation.remaining,
    copy.id = subscription.id → copy = subscription) db

theorem mem_of_mem_batch {tables : CloseTables} (hmem : subscription ∈ tables.batch) :
    subscription ∈ tables.subscriptions ∧ subscription.selected = true :=
  List.mem_filter.mp (mem_of_mem_firstOf hmem)

variable {position : ℕ} {invocation invocation' : Invocation} {tables' : CloseTables}
  {input : WorkInput}

/-- An invocation that moves the period is at the subscription. -/
theorem Fresh.head_of_move (hfresh : Fresh subscription db)
    (hinvocation : db.invocations[position]? = some invocation)
    (hmove : move subscription.period db (.work position input) ≠ .quiet) :
    invocation.remaining.head? = some subscription ∧ isIdle invocation.stage = false := by
  rw [move, hinvocation, Option.elim_some] at hmove
  obtain ⟨⟨head, hhead, hperiod⟩, hbusy⟩ := head_of_workMove hmove
  have hlive : invocation.stage ≠ .ended := by
    intro hended
    rw [hended] at hbusy
    cases hbusy
  have hsame : head = subscription :=
    hfresh.copies invocation (List.mem_of_getElem? hinvocation) hlive head
      (List.mem_of_head? hhead) (congrArg Prod.fst hperiod)
  exact ⟨hsame ▸ hhead, hbusy⟩

theorem Fresh.stored_step (hfresh : Fresh subscription db)
    (hinvocation : db.invocations[position]? = some invocation)
    (hstep : WorkStep db.tables invocation tables' invocation')
    (hcloses : move subscription.period db (.work position input) ≠ .closes) :
    subscription ∈ tables'.subscriptions := by
  cases hstep.subscriptions with
  | inl hsame =>
      rw [hsame]
      exact hfresh.stored
  | inr hclosed =>
      obtain ⟨head, hhead, hstage, hclosed⟩ := hclosed
      rw [hclosed]
      apply mem_closedIn.mpr
      refine ⟨subscription, hfresh.stored, if_neg fun hid => hcloses ?_⟩
      have hsame : head = subscription :=
        hfresh.copies invocation (List.mem_of_getElem? hinvocation) (by simp [hstage]) head
          (List.mem_of_head? hhead) hid.symm
      rw [move, hinvocation, Option.elim_some]
      exact workMove_of_closing (hsame ▸ hhead) hstage

/-- A subscription stays as it is until its period is closed. -/
theorem Fresh.step (hfresh : Fresh subscription db) (hstep : DbStep db command db')
    (hcloses : move subscription.period db command ≠ .closes) : Fresh subscription db' := by
  constructor
  · cases hstep with
    | work input hinvocation hstep => exact hfresh.stored_step hinvocation hstep hcloses
    | _ => exact hfresh.stored
  · apply hfresh.copies.step hstep
    · intro now copy hcopy hid
      exact Table.eq_of_key_eq (mem_of_mem_batch hcopy).1 hfresh.stored hid
    · intro invocation _ hcopies _ _ hworked hlive copy hcopy
      exact hcopies copy ((hworked.remaining hlive).2.subset hcopy)

/-- The period rests while no invocation works on its subscription. -/
theorem Fresh.quiet (hfresh : Fresh subscription db)
    (hidle : Underway (fun invocation => invocation.remaining.head? = some subscription →
      isIdle invocation.stage = true) db) (command : CloseCommand) :
    move subscription.period db command = .quiet := by
  cases command with
  | invoke state now => rfl
  | crash position => rfl
  | work position input =>
      cases hinvocation : db.invocations[position]? with
      | none => rw [move, hinvocation, Option.elim_none]
      | some invocation =>
          by_contra hmove
          obtain ⟨hhead, hbusy⟩ := hfresh.head_of_move hinvocation hmove
          have hlive : invocation.stage ≠ .ended := by
            intro hended
            rw [hended] at hbusy
            cases hbusy
          rw [hidle _ (List.mem_of_getElem? hinvocation) hlive hhead] at hbusy
          cases hbusy

/-! ## Subscriptions that end each invocation -/

/-- No invocation gets past a subscription without a supported cycle. -/
structure Blocking (subscription : BilledSubscription) (db : CloseDb) : Prop where
  fresh : Fresh subscription db
  ahead : Underway (fun invocation => invocation.remaining.head? = some subscription →
    invocation.stage = .next) db

theorem Blocking.quiet (hblocking : Blocking subscription db) (command : CloseCommand) :
    move subscription.period db command = .quiet := by
  apply hblocking.fresh.quiet
  intro invocation hinvocation hlive hhead
  rw [hblocking.ahead invocation hinvocation hlive hhead]
  rfl

/-- An invocation that is not at the head of its loop is not at a subscription that ends it. -/
theorem Blocking.step (hblocking : Blocking subscription db)
    (hpassable : passable subscription = false) (hstep : DbStep db command db') :
    Blocking subscription db' := by
  constructor
  · exact hblocking.fresh.step hstep (by rw [hblocking.quiet]; decide)
  · apply hblocking.ahead.step hstep
    · intro now _
      rfl
    · intro invocation _ hahead _ _ hworked hlive hhead'
      cases hworked with
      | finish hidle hended => exact absurd hended hlive
      | skip hhead hstage hpast => exact hpast.stage
      | find hhead hstage hpass hat =>
          rw [hat.remaining, hhead] at hhead'
          cases hhead'
          rw [hpass] at hpassable
          cases hpassable
      | create hhead hstage hpass hnone hat =>
          rw [hat.remaining, hhead] at hhead'
          cases hhead'
          rw [hpass] at hpassable
          cases hpassable
      | claim requestId now hhead hstage hjob hclaimable hat =>
          rw [hat.remaining] at hhead'
          rw [hahead hhead'] at hstage
          cases hstage
      | close closes errorCode hhead hstage hat =>
          rw [hat.remaining] at hhead'
          rw [hahead hhead'] at hstage
          cases hstage
      | retry hstage hat =>
          rw [hat.remaining] at hhead'
          rw [hahead hhead'] at hstage
          cases hstage
      | record clock hhead hstage hjob hpast => exact hpast.stage

/-! ## Subscriptions behind one that ends each invocation -/

theorem nodup_queueKeys (tables : CloseTables) : (tables.queue.map (·.queueKey)).Nodup := by
  rw [List.Nodup, List.pairwise_map]
  apply (tables.subscriptions.unique.filter _).imp
  intro left right hdistinct hkeys
  apply hdistinct
  exact decide_eq_true (congrArg (fun key => (ofLex key).2) hkeys)

structure Behind (blocker subscription : BilledSubscription) (db : CloseDb) : Prop where
  blocking : Blocking blocker db
  fresh : Fresh subscription db
  growing : Underway (fun invocation =>
    invocation.remaining.Pairwise fun left right => left.queueKey < right.queueKey) db
  after : Underway (fun invocation =>
    subscription ∈ invocation.remaining → blocker ∈ invocation.remaining) db

variable {blocker : BilledSubscription}

theorem Behind.quiet (hbehind : Behind blocker subscription db)
    (hbefore : blocker.queueKey < subscription.queueKey) (command : CloseCommand) :
    move subscription.period db command = .quiet := by
  apply hbehind.fresh.quiet
  intro invocation hinvocation hlive hhead
  have hgrowing : invocation.remaining.Pairwise fun left right =>
      left.queueKey < right.queueKey := hbehind.growing invocation hinvocation hlive
  have hblocker := hbehind.after invocation hinvocation hlive (List.mem_of_head? hhead)
  cases hremaining : invocation.remaining with
  | nil =>
      rw [hremaining] at hhead
      cases hhead
  | cons head rest =>
      rw [hremaining] at hhead hgrowing hblocker
      cases hhead
      cases List.mem_cons.mp hblocker with
      | inl hsame => exact absurd hbefore (hsame ▸ lt_irrefl _)
      | inr hlater =>
          exact absurd ((List.pairwise_cons.mp hgrowing).1 blocker hlater) hbefore.asymm

theorem Behind.step (hbehind : Behind blocker subscription db)
    (hselected : blocker.selected = true) (hpassable : passable blocker = false)
    (hbefore : blocker.queueKey < subscription.queueKey) (hstep : DbStep db command db') :
    Behind blocker subscription db' := by
  constructor
  · exact hbehind.blocking.step hpassable hstep
  · exact hbehind.fresh.step hstep (by rw [hbehind.quiet hbefore]; decide)
  · apply hbehind.growing.step hstep
    · intro now
      exact growing_firstOf maxBatchSize (nodup_queueKeys db.tables)
    · intro invocation _ hgrowing _ _ hworked hlive
      exact hgrowing.sublist (hworked.remaining hlive).2.sublist
  · apply hbehind.after.step hstep
    · intro now hmem
      have hqueued : blocker ∈ db.tables.queue :=
        List.mem_filter.mpr ⟨hbehind.blocking.fresh.stored, hselected⟩
      exact mem_firstOf_of_lt (nodup_queueKeys db.tables) hmem hqueued hbefore
    · intro invocation hinvocation hafter _ invocation' hworked hlive hmem
      obtain ⟨hwasLive, hsuffix⟩ := hworked.remaining hlive
      have hblocker := hafter (hsuffix.subset hmem)
      cases hworked.passed hlive with
      | inl hsame =>
          rw [hsame]
          exact hblocker
      | inr hpassed =>
          rw [hpassed.1]
          cases hremaining : invocation.remaining with
          | nil =>
              rw [hremaining] at hblocker
              cases hblocker
          | cons head rest =>
              rw [hremaining] at hblocker
              cases List.mem_cons.mp hblocker with
              | inr hlater => exact hlater
              | inl hsame =>
                  have hhead : invocation.remaining.head? = some blocker := by
                    rw [hremaining, hsame]
                    rfl
                  have hnext := hbehind.blocking.ahead invocation hinvocation hwasLive hhead
                  rw [hpassed.2 blocker hhead hnext] at hpassable
                  cases hpassable

/-! ## Subscriptions behind too many stuck ones -/

structure Crowded (crowd : List BilledSubscription) (subscription : BilledSubscription)
    (db : CloseDb) : Prop where
  stuck : ∀ other ∈ crowd, Stuck (view other.period db)
  stored : ∀ other ∈ crowd, Fresh other db
  fresh : Fresh subscription db
  absent : Underway (fun invocation => subscription ∉ invocation.remaining) db

variable {crowd : List BilledSubscription}

theorem Crowded.quiet (hcrowded : Crowded crowd subscription db) (command : CloseCommand) :
    move subscription.period db command = .quiet := by
  apply hcrowded.fresh.quiet
  intro invocation hinvocation hlive hhead
  exact absurd (List.mem_of_head? hhead) (hcrowded.absent invocation hinvocation hlive)

/-- The stuck ones take all the places of a new invocation. -/
theorem notMem_batch {tables : CloseTables} (hcrowd : crowd.Nodup)
    (hmany : maxBatchSize ≤ crowd.length)
    (hahead : ∀ other ∈ crowd, other ∈ before (·.queueKey) tables.queue subscription) :
    subscription ∉ tables.batch := by
  intro hmem
  have hrank := (mem_firstOf_iff (nodup_queueKeys tables) (mem_of_mem_firstOf hmem)).mp hmem
  have hcount := (hcrowd.subperm hahead).length_le
  omega

theorem Crowded.step (hcrowded : Crowded crowd subscription db) (hcrowd : crowd.Nodup)
    (hmany : maxBatchSize ≤ crowd.length)
    (hahead : ∀ other ∈ crowd, other.selected = true ∧ other.queueKey < subscription.queueKey)
    (hstep : DbStep db command db') : Crowded crowd subscription db' := by
  have hstuck := fun other (hother : other ∈ crowd) =>
    (hcrowded.stuck other hother).step (view_of_step other.period hstep)
  constructor
  · intro other hother
    exact (hstuck other hother).2
  · intro other hother
    exact (hcrowded.stored other hother).step hstep (by rw [(hstuck other hother).1]; decide)
  · exact hcrowded.fresh.step hstep (by rw [hcrowded.quiet]; decide)
  · apply hcrowded.absent.step hstep
    · intro now
      apply notMem_batch hcrowd hmany
      intro other hother
      obtain ⟨hselected, hbefore⟩ := hahead other hother
      exact List.mem_filter.mpr ⟨List.mem_filter.mpr
        ⟨(hcrowded.stored other hother).stored, hselected⟩, decide_eq_true hbefore⟩
    · intro invocation _ habsent _ _ hworked hlive hmem
      exact habsent ((hworked.remaining hlive).2.subset hmem)

end Stallorder.BlockedPeriods
