import Stallorder.Kitchen.BoardSteps

/-!
# Edited orders

An edit finds an order of which nothing is started, and leaves one of which
nothing is started.  Items that leave take their tasks along and new items come
with tasks; a task keeps the quantity with which it was created.
-/

namespace Stallorder.KitchenBoard

open OrderContract CashShifts Checks
open SyncDatabase (OrderStatus OrderItemStatus)
open OrderDatabase (EditItem UpdateStaffOrderItems)
open OrderEdits (OrderEditError PreparedItem existingItems newItems)

variable {exact : Prop} {ticket written : Ticket} {item : KitchenItem} {now : Timestamp}
  {existing : List (Uuid × ℕ)} {request : UpdateStaffOrderItems} {context : EditContext}
  {prepared : List PreparedItem} {db db' : BoardDb} {scope : CashScope} {orderId : Uuid}

/-! ## Orders that may be edited -/

/-- Nothing of the order is begun. -/
structure Unbegun (exact : Prop) (ticket : Ticket) : Prop extends Agrees exact ticket where
  status : ticket.status = .confirmed ∨ ticket.status = .waitingConfirmation
  pending : ∀ item ∈ ticket.items, item.status = .pending

theorem unbegun_of_editable (hagrees : Agrees exact ticket)
    (hfailure : getStaffOrderEditFailure ticket = none) : Unbegun exact ticket := by
  unfold getStaffOrderEditFailure at hfailure
  split at hfailure
  · cases hfailure
  split at hfailure
  · cases hfailure
  split at hfailure
  · cases hfailure
  split at hfailure
  · cases hfailure
  next hsource hstatus hpaid hstarted =>
    simp only [Bool.or_eq_true, not_or, Bool.and_eq_true, decide_eq_true_eq, not_and, not_not,
      Bool.not_eq_true', ne_eq, Bool.not_eq_false] at hsource hstatus
    refine ⟨hagrees, ?_, fun item hitem => ?_⟩
    · by_cases hstaff : ticket.source = .staffPos
      · exact .inl (hstatus.1 hstaff)
      · by_cases hwaiting : ticket.status = .waitingConfirmation
        · exact .inr hwaiting
        · exact .inl (hstatus.2 ⟨hsource hstaff, hwaiting⟩)
    · have hnot := List.any_eq_false.mp (Bool.eq_false_of_not_eq_true hstarted) item hitem
      rw [isStarted, Bool.or_eq_true, not_or] at hnot
      simpa using hnot.1

/-! ## Items that leave and items that stay -/

theorem unbegun_removeItems (hunbegun : Unbegun exact ticket)
    (hremove : removeItems existing ticket = .ok written) :
    Unbegun exact written ∧ written.status = ticket.status
      ∧ ∀ item, item ∈ written.items ↔ item ∈ ticket.items ∧ isRemoved existing item = false := by
  obtain ⟨-, -, hremove⟩ := bind_eq_ok.mp hremove
  cases hremove
  have hitems : ∀ item, item ∈ (deleteItems (isRemoved existing) ticket).items
      ↔ item ∈ ticket.items ∧ isRemoved existing item = false := by
    intro item
    rw [deleteItems, Table.mem_filter, Bool.not_eq_true']
  refine ⟨⟨agrees_deleteItems hunbegun.toAgrees _, hunbegun.status, fun item hitem => ?_⟩, rfl,
    hitems⟩
  exact hunbegun.pending item ((hitems item).mp hitem).1

/-- The items of an order on the board keep their quantities. -/
def KeepsQuantities (existing : List (Uuid × ℕ)) (ticket : Ticket) : Prop :=
  ticket.status = .confirmed → ∀ item ∈ ticket.items,
    (keptQuantity existing item.id).all (· = item.quantity) = true

theorem withQuantity_quantity (hkeeps : (keptQuantity existing item.id).all (· = item.quantity)) :
    (withQuantity existing item).quantity = item.quantity := by
  cases hkept : keptQuantity existing item.id with
  | none => rw [withQuantity, hkept, Option.getD_none]
  | some quantity =>
      rw [hkept, Option.all_some, decide_eq_true_eq] at hkeeps
      rw [withQuantity, hkept, Option.getD_some, hkeeps]

theorem mem_requantified :
    item ∈ (rewriteItems now (withQuantity existing) (fun _ => rfl) ticket).items
      ↔ ∃ stored ∈ ticket.items, withQuantity existing stored = item := by
  simp [rewriteItems, Table.mem_iff, Table.rewrite]

theorem unbegun_requantifyItems (hunbegun : Unbegun exact ticket)
    (hkeeps : exact → KeepsQuantities existing ticket)
    (hrequantify : requantifyItems existing now ticket = .ok written) :
    Unbegun exact written ∧ written.status = ticket.status
      ∧ ∀ item ∈ ticket.items, withQuantity existing item ∈ written.items := by
  obtain ⟨-, -, hrequantify⟩ := bind_eq_ok.mp hrequantify
  cases hrequantify
  refine ⟨⟨agrees_rewriteItems hunbegun.toAgrees _ ?_ fun _ _ _ => rfl, hunbegun.status, ?_⟩, rfl,
    fun item hitem => mem_requantified.mpr ⟨item, hitem, rfl⟩⟩
  · intro hexact task htask item hitem _
    rcases hunbegun.status with hconfirmed | hwaiting
    · exact withQuantity_quantity (hkeeps hexact hconfirmed item hitem)
    · exact absurd htask ((hunbegun.waiting hwaiting).1 task)
  · intro item hitem
    obtain ⟨stored, hstored, rfl⟩ := mem_requantified.mp hitem
    exact hunbegun.pending stored hstored

/-! ## New items -/

theorem unbegun_appendItem {line : PreparedItem} (hunbegun : Unbegun exact ticket)
    (happend : appendItem context ticket line = .ok written) :
    Unbegun exact written ∧ written.status = ticket.status
      ∧ (∀ item ∈ ticket.items, item ∈ written.items) ∧ ∃ item, item ∈ written.items := by
  obtain ⟨index, -, happend⟩ := bind_eq_ok.mp happend
  have hinsert := orFail_eq_ok.mp happend
  have hstatus := status_insertItem hinsert
  refine ⟨⟨agrees_insertItem hunbegun.toAgrees (fun _ => rfl) hinsert, ?_, fun item hitem => ?_⟩,
    hstatus, fun item hitem => (mem_insertItem hinsert).mpr (.inl hitem),
    _, (mem_insertItem hinsert).mpr (.inr rfl)⟩
  · rw [hstatus]
    exact hunbegun.status
  · rcases (mem_insertItem hinsert).mp hitem with hold | rfl
    · exact hunbegun.pending item hold
    · rfl

theorem unbegun_appendItems (hunbegun : Unbegun exact ticket)
    (happend : prepared.foldlM (appendItem context) ticket = .ok written) :
    Unbegun exact written ∧ written.status = ticket.status
      ∧ (∀ item ∈ ticket.items, item ∈ written.items)
      ∧ (prepared ≠ [] → ∃ item, item ∈ written.items) := by
  induction prepared generalizing ticket with
  | nil =>
      cases happend
      exact ⟨hunbegun, rfl, fun _ hitem => hitem, fun hne => absurd rfl hne⟩
  | cons line prepared ih =>
      rw [List.foldlM_cons] at happend
      obtain ⟨next, hnext, hrest⟩ := bind_eq_ok.mp happend
      obtain ⟨hfirst, hstatus, hkept, item, hitem⟩ := unbegun_appendItem hunbegun hnext
      obtain ⟨hwritten, hlast, hall, -⟩ := ih hfirst hrest
      exact ⟨hwritten, hlast.trans hstatus, fun stored hstored => hall stored (hkept stored hstored),
        fun _ => ⟨item, hall item hitem⟩⟩

/-! ## The whole edit -/

/-- A request that asks for no item of the order adds one. -/
theorem prepared_ne_nil (hitems : request.items ≠ []) (hnone : existingItems request.items = [])
    (hprepare : prepareStaffOrderItems context ticket.note request.items = .ok prepared) :
    prepared ≠ [] := by
  cases hrequest : request.items with
  | nil => exact absurd hrequest hitems
  | cons first rest =>
      cases first with
      | existing itemId quantity =>
          rw [hrequest] at hnone
          cases hnone
      | new productId quantity note noteOptionIds =>
          rw [hrequest] at hprepare
          obtain ⟨-, -, hprepare⟩ := bind_eq_ok.mp hprepare
          rw [List.filterMap_cons, List.mapM_cons] at hprepare
          obtain ⟨line, -, hprepare⟩ := bind_eq_ok.mp hprepare
          obtain ⟨rest, -, hprepare⟩ := bind_eq_ok.mp hprepare
          cases hprepare
          exact List.cons_ne_nil _ _

theorem keptQuantity_isSome {entry : Uuid × ℕ} (hentry : entry ∈ existing) :
    (keptQuantity existing entry.1).isSome = true := by
  rw [keptQuantity, Option.isSome_map, List.find?_isSome]
  exact ⟨entry, hentry, decide_eq_true rfl⟩

theorem shown_replaceItems (hunbegun : Unbegun exact ticket) (hitems : request.items ≠ [])
    (hfound : ∀ entry ∈ existingItems request.items, (ticket.items.get? entry.1).isSome = true)
    (hkeeps : exact → KeepsQuantities (existingItems request.items) ticket)
    (hreplace : replaceItems context ticket request = .ok written) : Shown exact written := by
  obtain ⟨-, -, hreplace⟩ := bind_eq_ok.mp hreplace
  obtain ⟨prepared, hprepare, hreplace⟩ := bind_eq_ok.mp hreplace
  obtain ⟨-, -, hreplace⟩ := bind_eq_ok.mp hreplace
  obtain ⟨-, -, hreplace⟩ := bind_eq_ok.mp hreplace
  obtain ⟨-, -, hreplace⟩ := bind_eq_ok.mp hreplace
  obtain ⟨removed, hremove, hreplace⟩ := bind_eq_ok.mp hreplace
  obtain ⟨requantified, hrequantify, hreplace⟩ := bind_eq_ok.mp hreplace
  obtain ⟨appended, happend, hreplace⟩ := bind_eq_ok.mp hreplace
  cases hreplace
  obtain ⟨hremoved, hremovedStatus, hleft⟩ := unbegun_removeItems hunbegun hremove
  have hremovedKeeps : exact → KeepsQuantities (existingItems request.items) removed :=
    fun hexact hconfirmed item hitem =>
      hkeeps hexact (hremovedStatus.symm.trans hconfirmed) item ((hleft item).mp hitem).1
  obtain ⟨hrequantified, -, hstays⟩ :=
    unbegun_requantifyItems hremoved hremovedKeeps hrequantify
  obtain ⟨happended, -, hkept, hadded⟩ := unbegun_appendItems hrequantified happend
  have hnonempty : ∃ item, item ∈ appended.items := by
    cases hexisting : existingItems request.items with
    | nil => exact hadded (prepared_ne_nil hitems hexisting hprepare)
    | cons entry rest =>
        have hentry : entry ∈ existingItems request.items := hexisting ▸ List.mem_cons_self
        obtain ⟨item, hget⟩ := Option.isSome_iff_exists.mp (hfound entry hentry)
        obtain ⟨hitem, hid⟩ := Table.get?_eq_some_iff.mp hget
        have hidEntry : item.id = entry.1 := hid
        have hstay : isRemoved (existingItems request.items) item = false := by
          have hsome := keptQuantity_isSome hentry
          rw [isRemoved, hidEntry]
          cases hquantity : keptQuantity (existingItems request.items) entry.1 with
          | none => rw [hquantity] at hsome; cases hsome
          | some quantity => rfl
        exact ⟨_, hkept _ (hstays item ((hleft item).mpr ⟨hitem, hstay⟩))⟩
  rcases happended.status with hconfirmed | hwaiting
  · exact shown_of_pending ⟨happended.follows, happended.shown, happended.waiting⟩ hconfirmed
      happended.pending hnonempty
  · exact shown_of_offBoard ⟨happended.follows, happended.shown, happended.waiting⟩ hnonempty
      (by rw [show appended.status = _ from hwaiting]; rfl)

/-- An edit is shown by the board, if no item of an order on it is given another quantity. -/
theorem allShown_editStaffOrderItems (hall : AllShown exact db) (hitems : request.items ≠ [])
    (hkeeps : exact → db.amendments.length < db'.amendments.length →
      ∀ ticket ∈ db.tickets, ticket.id = orderId →
        KeepsQuantities (existingItems request.items) ticket)
    (hedit : editStaffOrderItems context db scope orderId request = .ok db') :
    AllShown exact db' := by
  obtain ⟨ticket, hfind, hedit⟩ := bind_eq_ok.mp hedit
  obtain ⟨hticket, hid⟩ := mem_of_findTicket (orFail_eq_ok.mp hfind)
  have hshown := hall ticket hticket
  split at hedit
  · obtain ⟨-, -, hedit⟩ := bind_eq_ok.mp hedit
    cases hedit
    exact hall
  · obtain ⟨-, -, hedit⟩ := bind_eq_ok.mp hedit
    split at hedit
    · cases hedit
    · next hfailure =>
      obtain ⟨-, -, hedit⟩ := bind_eq_ok.mp hedit
      obtain ⟨_, hconflict, hedit⟩ := bind_eq_ok.mp hedit
      rw [failWhen_eq_ok, Bool.or_eq_false_iff, List.any_eq_false] at hconflict
      split at hedit
      · cases hedit
        exact hall
      · obtain ⟨written, hreplace, hedit⟩ := bind_eq_ok.mp hedit
        cases hedit
        have hunbegun := unbegun_of_editable hshown.toAgrees hfailure
        have hamended : db.amendments.length < db.amendments.length + 1 := Nat.lt_succ_self _
        refine allShown_write hall (shown_replaceItems hunbegun hitems (fun entry hentry => ?_)
          (fun hexact => hkeeps hexact hamended ticket hticket hid) hreplace)
        exact Option.isSome_iff_ne_none.mpr (by simpa using hconflict.1 entry hentry)

end Stallorder.KitchenBoard
