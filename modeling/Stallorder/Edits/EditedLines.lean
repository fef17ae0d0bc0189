import Stallorder.Edits.StaffEdits

/-!
# The lines after an edit

An edit deletes the lines that it leaves out, gives the others the quantities
that are asked for and inserts the new ones.  The loops are followed line by
line: what they leave are the lines that were kept, unchanged but for their
quantity, and one numbered line for every item that is added.
-/

namespace Stallorder.StaffEdits

open OrderContract Checks StaffItems

/-! ## Lines of an order -/

/-- The line with the quantity that is asked for. -/
def requantified (existing : List (Uuid × ℕ)) (line : OrderLine) : OrderLine :=
  { line with quantity := (keptQuantity existing line.id).getD line.quantity }

/-- The lines that the request keeps, with the quantities that it asks for. -/
def keptItems (existing : List (Uuid × ℕ)) (lines : List OrderLine) : List OrderLine :=
  lines.filterMap fun line =>
    (keptQuantity existing line.id).map fun quantity => { line with quantity }

theorem keptQuantity_cons (entry : Uuid × ℕ) (rest : List (Uuid × ℕ)) (itemId : Uuid) :
    keptQuantity (entry :: rest) itemId
      = if itemId = entry.1 then some entry.2 else keptQuantity rest itemId := by
  unfold keptQuantity
  rw [List.lookup_cons]
  by_cases hid : itemId = entry.1
  · rw [if_pos hid, beq_iff_eq.mpr hid]
  · rw [if_neg hid, beq_eq_false_iff_ne.mpr hid]

theorem requantified_singleton (entry : Uuid × ℕ) (line : OrderLine) :
    requantified [entry] line
      = if line.id = entry.1 then { line with quantity := entry.2 } else line := by
  unfold requantified
  rw [keptQuantity_cons]
  split <;> rfl

theorem map_requantified_filter (existing : List (Uuid × ℕ)) (lines : List OrderLine) :
    (lines.filter fun line => (keptQuantity existing line.id).isSome).map (requantified existing)
      = keptItems existing lines := by
  induction lines with
  | nil => rfl
  | cons line lines ih =>
      unfold keptItems at ih ⊢
      cases hkept : keptQuantity existing line.id with
      | none => simp [hkept, ih]
      | some quantity => simp [hkept, ih, requantified]

theorem eq_of_id_eq {lines : OrderLines} {left right : OrderLine}
    (hleft : left ∈ lines) (hright : right ∈ lines) (hid : left.id = right.id) : left = right :=
  CheckedTable.eq_of_key_eq hleft hright hid

theorem findItem_of_mem {order : OrderColumns} {line original : OrderLine}
    (hline : line ∈ order.items) (hfound : findItem order line.id = some original) :
    original = line := by
  have hid := List.find?_some hfound
  exact eq_of_id_eq (List.mem_of_find?_eq_some hfound) hline (of_decide_eq_true hid)

/-- No two lines of an order have the same line number. -/
theorem nodup_sourceLineIndexes (items : OrderLines) :
    (items.table.rows.filterMap (·.sourceLineIndex)).Nodup := by
  rw [List.Nodup, List.pairwise_filterMap]
  refine items.table.unique.imp fun {left right} hapart index hleft other hright hsame => ?_
  exact hapart (Indexed.collides_addUnique_iff.mpr
    (Or.inr ⟨index, hleft, hright.trans (congrArg some hsame.symm)⟩))

theorem sourceLineIndex_within {items : OrderLines} {line : OrderLine} (hline : line ∈ items)
    {index : ℕ} (hindex : line.sourceLineIndex = some index) : 1 ≤ index ∧ index ≤ 100 := by
  have hcheck := items.checked line hline
  unfold orderItemsSourceLineIndexCheck at hcheck
  rw [hindex] at hcheck
  simpa using hcheck

/-! ## Deleting -/

/-- Without a line under way, what stays is what the request keeps. -/
theorem rows_of_removeItems {existing : List (Uuid × ℕ)} {items kept : OrderLines}
    (hpending : ∀ line ∈ items.table.rows, isStarted line = false)
    (hremove : removeItems existing items = .ok kept) :
    kept.table.rows
      = items.table.rows.filter fun line => (keptQuantity existing line.id).isSome := by
  obtain ⟨_, -, hremove⟩ := bind_eq_ok.mp hremove
  cases hremove
  refine List.filter_congr fun line hline => ?_
  have hremoved : line.id ∈ (items.table.rows.filter fun line =>
      (keptQuantity existing line.id).isNone).map (·.id)
        ↔ (keptQuantity existing line.id).isNone = true := by
    rw [List.mem_map]
    constructor
    · rintro ⟨other, hother, hid⟩
      rw [← hid]
      exact (List.mem_filter.mp hother).2
    · intro hnone
      exact ⟨line, List.mem_filter.mpr ⟨hline, hnone⟩, rfl⟩
  change (!(decide _ && !isStarted line)) = _
  rw [hpending line hline, Bool.not_false, Bool.and_true, Bool.eq_iff_iff, Bool.not_eq_true',
    decide_eq_false_iff_not, hremoved, Option.isNone_iff_eq_none, ← ne_eq,
    Option.ne_none_iff_isSome]

/-! ## Requantifying -/

/-- One step gives the line of its entry the quantity and leaves the others alone. -/
theorem rows_of_requantifyItem {order : OrderColumns} {items items' : OrderLines}
    {entry : Uuid × ℕ} (hpending : ∀ line ∈ items.table.rows, isStarted line = false)
    (horiginal : ∀ line ∈ items.table.rows, line.id = entry.1 →
      ∀ original, findItem order entry.1 = some original → original.quantity = line.quantity)
    (hstep : requantifyItem order items entry = .ok items') :
    items'.table.rows = items.table.rows.map (requantified [entry]) := by
  unfold requantifyItem at hstep
  split at hstep
  · next hsame =>
    cases hstep
    conv_lhs => rw [← List.map_id items.table.rows]
    refine List.map_congr_left fun line hline => ?_
    rw [requantified_singleton]
    by_cases hid : line.id = entry.1
    · obtain ⟨original, hfound, hquantity⟩ := (Option.any_eq_true _ _).mp hsame
      have hkept := horiginal line hline hid original hfound
      rw [if_pos hid, ← of_decide_eq_true hquantity, hkept]
      rfl
    · rw [if_neg hid]
      rfl
  · obtain ⟨_, -, hstep⟩ := bind_eq_ok.mp hstep
    rw [CheckedTable.rows_of_updateWhere? (orFail_eq_ok.mp hstep)]
    refine List.map_congr_left fun line hline => ?_
    rw [requantified_singleton]
    rw [hpending line hline, Bool.not_false, Bool.and_true]
    by_cases hid : line.id = entry.1
    · rw [if_pos (decide_eq_true hid), if_pos hid]
    · rw [if_neg (by simpa using hid), if_neg hid]

theorem requantified_cons {entry : Uuid × ℕ} {rest : List (Uuid × ℕ)} (line : OrderLine)
    (hfresh : entry.1 ∉ rest.map (·.1)) :
    requantified rest (requantified [entry] line) = requantified (entry :: rest) line := by
  rw [requantified_singleton]
  unfold requantified
  rw [keptQuantity_cons]
  by_cases hid : line.id = entry.1
  · have hnone : keptQuantity rest entry.1 = none := by
      refine List.lookup_eq_none_iff.mpr fun other hmem => ?_
      have hne : other.1 ≠ entry.1 := fun hsame =>
        hfresh (List.mem_map.mpr ⟨other, hmem, hsame⟩)
      simpa using hne.symm
    rw [if_pos hid, if_pos hid, hid, hnone]
    rfl
  · rw [if_neg hid, if_neg hid]

/-- The loop gives every line the quantity that is asked for. -/
theorem rows_of_requantifyItems {order : OrderColumns} {entries : List (Uuid × ℕ)}
    {items items' : OrderLines} (hdistinct : (entries.map (·.1)).Nodup)
    (hpending : ∀ line ∈ items.table.rows, isStarted line = false)
    (horiginal : ∀ line ∈ items.table.rows, line.id ∈ entries.map (·.1) →
      ∀ original, findItem order line.id = some original → original.quantity = line.quantity)
    (hloop : entries.foldlM (requantifyItem order) items = .ok items') :
    items'.table.rows = items.table.rows.map (requantified entries) := by
  induction entries generalizing items with
  | nil =>
      cases hloop
      exact (List.map_id _).symm
  | cons entry rest ih =>
      rw [List.map_cons, List.nodup_cons] at hdistinct
      obtain ⟨next, hnext, hrest⟩ := foldlM_cons_eq_ok.mp hloop
      have hrows : next.table.rows = items.table.rows.map (requantified [entry]) := by
        refine rows_of_requantifyItem hpending (fun line hline hid original hfound => ?_) hnext
        rw [← hid] at hfound
        exact horiginal line hline (by rw [hid]; exact List.mem_cons_self) original hfound
      have hpendingNext : ∀ line ∈ next.table.rows, isStarted line = false := by
        rw [hrows]
        intro line hline
        obtain ⟨stored, hstored, rfl⟩ := List.mem_map.mp hline
        exact hpending stored hstored
      have horiginalNext : ∀ line ∈ next.table.rows, line.id ∈ rest.map (·.1) →
          ∀ original, findItem order line.id = some original →
            original.quantity = line.quantity := by
        rw [hrows]
        intro line hline hmem original hfound
        obtain ⟨stored, hstored, rfl⟩ := List.mem_map.mp hline
        have hne : stored.id ≠ entry.1 := fun hid => hdistinct.1 (hid ▸ hmem)
        have hsame : requantified [entry] stored = stored := by
          rw [requantified_singleton, if_neg hne]
        rw [hsame] at hmem hfound ⊢
        exact horiginal stored hstored (List.mem_cons_of_mem _ hmem) original hfound
      rw [ih hdistinct.2 hpendingNext horiginalNext hrest, hrows, List.map_map]
      exact List.map_congr_left fun line _ => requantified_cons line hdistinct.1

/-! ## Inserting -/

/-- The line has been inserted for the item, under a number from 1 to 100. -/
def Created (context : EditContext) (item : PreparedItem) (line : OrderLine) : Prop :=
  ∃ position index, 1 ≤ index ∧ index ≤ 100 ∧ line = newLine context position index item

theorem freeLineIndex_within {used : List (Option ℕ)} {index : ℕ}
    (hfree : freeLineIndex used = some index) : 1 ≤ index ∧ index ≤ 100 := by
  have hmem := List.mem_of_find?_eq_some hfree
  rw [List.mem_range'_1] at hmem
  omega

theorem rows_of_createItems {context : EditContext} {position : ℕ} {used : List (Option ℕ)}
    {prepared : List PreparedItem} {items items' : OrderLines}
    (hcreate : createItems context position used items prepared = .ok items') :
    ∃ added, items'.table.rows = items.table.rows ++ added
      ∧ List.Forall₂ (Created context) prepared added := by
  induction prepared generalizing position used items with
  | nil =>
      cases hcreate
      exact ⟨[], (List.append_nil _).symm, List.Forall₂.nil⟩
  | cons item rest ih =>
      obtain ⟨index, hindex, hcreate⟩ := bind_eq_ok.mp hcreate
      obtain ⟨next, hinsert, hcreate⟩ := bind_eq_ok.mp hcreate
      obtain ⟨added, hrows, hadded⟩ := ih hcreate
      have hnext := CheckedTable.rows_of_insert? (orFail_eq_ok.mp hinsert)
      obtain ⟨hlow, hhigh⟩ := freeLineIndex_within (orFail_eq_ok.mp hindex)
      refine ⟨newLine context position index item :: added, ?_,
        List.Forall₂.cons ⟨position, index, hlow, hhigh, rfl⟩ hadded⟩
      rw [hrows, hnext, List.append_assoc]
      rfl

/-! ## All lines -/

/-- The lines that an edit writes are those it keeps and those it adds. -/
theorem rows_of_writeItems {context : EditContext} {order : OrderColumns}
    {existing : List (Uuid × ℕ)} {prepared : List PreparedItem} {items : OrderLines}
    (hpending : ∀ line ∈ order.items.table.rows, isStarted line = false)
    (hdistinct : (existing.map (·.1)).Nodup)
    (hwrite : writeItems context order existing prepared = .ok items) :
    ∃ added, items.table.rows = keptItems existing order.items.table.rows ++ added
      ∧ List.Forall₂ (Created context) prepared added := by
  obtain ⟨kept, hremove, hwrite⟩ := bind_eq_ok.mp hwrite
  obtain ⟨changed, hchange, hcreate⟩ := bind_eq_ok.mp hwrite
  have hkept := rows_of_removeItems hpending hremove
  have hstored : ∀ line ∈ kept.table.rows, line ∈ order.items.table.rows := by
    rw [hkept]
    exact fun line hline => (List.mem_filter.mp hline).1
  have hchanged : changed.table.rows = kept.table.rows.map (requantified existing) := by
    refine rows_of_requantifyItems hdistinct (fun line hline => hpending line (hstored line hline))
      (fun line hline _ original hfound => ?_) hchange
    rw [findItem_of_mem (hstored line hline) hfound]
  obtain ⟨added, hrows, hadded⟩ := rows_of_createItems hcreate
  refine ⟨added, ?_, hadded⟩
  rw [hrows, hchanged, hkept, map_requantified_filter]

end Stallorder.StaffEdits
