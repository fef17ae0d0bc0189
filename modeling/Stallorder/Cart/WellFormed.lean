import Stallorder.Cart.QrCart

/-!
# Well-formed carts

A well-formed cart keeps its lines apart and stays within the limits.  Being
well formed does not depend on the order of the lines, so it can be taken
apart at any line: the rest is well formed, and the line fits to the rest.
Every edit takes a line out and puts a line that fits in its place.
-/

namespace Stallorder.QrCart

variable {limits : QrCartLimits} {lines rest before after : List QrCartLine}
  {line : QrCartLine} {productId lineId : CodeUnits}

/-- The key of a line. -/
abbrev QrCartLine.key (line : QrCartLine) : QrCartLineKey :=
  qrCartLineKey line.toQrCartLineInput

structure WellFormed (limits : QrCartLimits) (lines : List QrCartLine) : Prop where
  distinctIds : (lines.map fun line => line.id).Nodup
  distinctKeys : (lines.map QrCartLine.key).Nodup
  positive : ∀ line ∈ lines, 1 ≤ line.quantity
  productQuantity : ∀ productId, qrCartProductQuantity lines productId ≤ limits.maxItemQuantity
  totalQuantity : qrCartTotalQuantity lines ≤ limits.maxTotalQuantity
  uniqueProducts : (distinctProducts lines).length ≤ limits.maxUniqueProducts
  lineCount : lines.length ≤ qrCartMaxLines

/-- A line that can be put into a cart. -/
structure Fits (limits : QrCartLimits) (rest : List QrCartLine) (line : QrCartLine) : Prop where
  freshId : line.id ∉ rest.map fun other => other.id
  freshKey : line.key ∉ rest.map QrCartLine.key
  positive : 1 ≤ line.quantity
  productQuantity :
    qrCartProductQuantity rest line.productId + line.quantity ≤ limits.maxItemQuantity
  totalQuantity : qrCartTotalQuantity rest + line.quantity ≤ limits.maxTotalQuantity
  productAllowed : ¬productRefused limits rest line.productId
  lineCount : rest.length < qrCartMaxLines

/-! ## Quantities -/

@[simp]
theorem qrCartTotalQuantity_nil : qrCartTotalQuantity [] = 0 := rfl

@[simp]
theorem qrCartTotalQuantity_cons :
    qrCartTotalQuantity (line :: rest) = line.quantity + qrCartTotalQuantity rest := rfl

@[simp]
theorem qrCartProductQuantity_nil : qrCartProductQuantity [] productId = 0 := rfl

theorem qrCartProductQuantity_cons :
    qrCartProductQuantity (line :: rest) productId
      = (if line.productId = productId then line.quantity else 0)
        + qrCartProductQuantity rest productId := rfl

@[simp]
theorem qrCartProductQuantity_cons_self :
    qrCartProductQuantity (line :: rest) line.productId
      = line.quantity + qrCartProductQuantity rest line.productId := by
  rw [qrCartProductQuantity_cons, if_pos rfl]

theorem qrCartTotalQuantity_perm {other : List QrCartLine} (hperm : lines.Perm other) :
    qrCartTotalQuantity lines = qrCartTotalQuantity other :=
  (hperm.map _).sum_eq

theorem qrCartProductQuantity_perm {other : List QrCartLine} (hperm : lines.Perm other)
    (productId : CodeUnits) :
    qrCartProductQuantity lines productId = qrCartProductQuantity other productId :=
  (hperm.map _).sum_eq

theorem distinctProducts_length_cons :
    (distinctProducts (line :: rest)).length
      = if line.productId ∈ distinctProducts rest then (distinctProducts rest).length
        else (distinctProducts rest).length + 1 := by
  by_cases hmem : line.productId ∈ distinctProducts rest
  · rw [if_pos hmem, distinctProducts, List.map_cons,
      List.dedup_cons_of_mem (List.mem_dedup.mp hmem), ← distinctProducts]
  · rw [if_neg hmem, distinctProducts, List.map_cons,
      List.dedup_cons_of_notMem (fun hcons => hmem (List.mem_dedup.mpr hcons)),
      List.length_cons, ← distinctProducts]

theorem distinctProducts_perm {other : List QrCartLine} (hperm : lines.Perm other) :
    (distinctProducts lines).Perm (distinctProducts other) :=
  (hperm.map _).dedup

/-! ## Taking a cart apart -/

theorem wellFormed_nil : WellFormed limits [] where
  distinctIds := List.nodup_nil
  distinctKeys := List.nodup_nil
  positive := by simp
  productQuantity := by simp
  totalQuantity := by simp
  uniqueProducts := by simp [distinctProducts]
  lineCount := by simp

theorem WellFormed.perm {other : List QrCartLine} (hformed : WellFormed limits lines)
    (hperm : lines.Perm other) : WellFormed limits other where
  distinctIds := (hperm.map _).nodup_iff.mp hformed.distinctIds
  distinctKeys := (hperm.map _).nodup_iff.mp hformed.distinctKeys
  positive line hmem := hformed.positive line (hperm.mem_iff.mpr hmem)
  productQuantity productId := by
    rw [← qrCartProductQuantity_perm hperm]
    exact hformed.productQuantity productId
  totalQuantity := by
    rw [← qrCartTotalQuantity_perm hperm]
    exact hformed.totalQuantity
  uniqueProducts := by
    rw [← (distinctProducts_perm hperm).length_eq]
    exact hformed.uniqueProducts
  lineCount := by
    rw [← hperm.length_eq]
    exact hformed.lineCount

/-- A well-formed cart is a line that fits to a well-formed rest. -/
theorem wellFormed_cons_iff :
    WellFormed limits (line :: rest) ↔ WellFormed limits rest ∧ Fits limits rest line := by
  constructor
  · intro hformed
    have hids := List.nodup_cons.mp hformed.distinctIds
    have hkeys := List.nodup_cons.mp hformed.distinctKeys
    have hpositive : 1 ≤ line.quantity := hformed.positive line List.mem_cons_self
    have hunique := hformed.uniqueProducts
    have hcount := hformed.lineCount
    rw [distinctProducts_length_cons] at hunique
    rw [List.length_cons] at hcount
    constructor
    · refine ⟨hids.2, hkeys.2, fun other hmem =>
        hformed.positive other (List.mem_cons_of_mem line hmem), fun productId => ?_, ?_, ?_, ?_⟩
      · have hproduct := hformed.productQuantity productId
        rw [qrCartProductQuantity_cons] at hproduct
        split at hproduct <;> omega
      · have htotal := hformed.totalQuantity
        rw [qrCartTotalQuantity_cons] at htotal
        omega
      · split at hunique <;> omega
      · omega
    · refine ⟨hids.1, hkeys.1, hpositive, ?_, ?_, ?_, by omega⟩
      · have hproduct := hformed.productQuantity line.productId
        rw [qrCartProductQuantity_cons_self] at hproduct
        omega
      · have htotal := hformed.totalQuantity
        rw [qrCartTotalQuantity_cons] at htotal
        omega
      · rintro ⟨hnew, hfull⟩
        rw [if_neg hnew] at hunique
        omega
  · rintro ⟨hformed, hfits⟩
    have hpositive := hfits.positive
    have hproduct := hfits.productQuantity
    have htotal := hfits.totalQuantity
    have hcount := hfits.lineCount
    refine ⟨List.nodup_cons.mpr ⟨hfits.freshId, hformed.distinctIds⟩,
      List.nodup_cons.mpr ⟨hfits.freshKey, hformed.distinctKeys⟩, ?_, fun productId => ?_, ?_,
      ?_, ?_⟩
    · intro other hmem
      rcases List.mem_cons.mp hmem with rfl | hrest
      · exact hpositive
      · exact hformed.positive other hrest
    · have hother := hformed.productQuantity productId
      rw [qrCartProductQuantity_cons]
      by_cases hsame : line.productId = productId
      · subst hsame
        rw [if_pos rfl]
        omega
      · rw [if_neg hsame]
        omega
    · rw [qrCartTotalQuantity_cons]
      omega
    · have hunique := hformed.uniqueProducts
      have hallowed := hfits.productAllowed
      rw [distinctProducts_length_cons]
      by_cases hmem : line.productId ∈ distinctProducts rest
      · rw [if_pos hmem]
        exact hunique
      · rw [if_neg hmem]
        have hroom : ¬limits.maxUniqueProducts ≤ (distinctProducts rest).length :=
          fun hfull => hallowed ⟨hmem, hfull⟩
        omega
    · rw [List.length_cons]
      omega

theorem wellFormed_middle_iff :
    WellFormed limits (before ++ line :: after) ↔
      WellFormed limits (before ++ after) ∧ Fits limits (before ++ after) line := by
  rw [← wellFormed_cons_iff]
  exact ⟨fun hformed => hformed.perm List.perm_middle,
    fun hformed => hformed.perm List.perm_middle.symm⟩

theorem WellFormed.of_append (hformed : WellFormed limits (before ++ after)) :
    WellFormed limits before := by
  have hswapped := hformed.perm List.perm_append_comm
  clear hformed
  induction after with
  | nil => exact hswapped
  | cons line after ih => exact ih (wellFormed_cons_iff.mp hswapped).1

/-- What fits keeps fitting with any quantity the rest has room for. -/
theorem Fits.withQuantity (hfits : Fits limits rest line) {quantity : ℤ}
    (hpositive : 1 ≤ quantity)
    (hproduct : qrCartProductQuantity rest line.productId + quantity ≤ limits.maxItemQuantity)
    (htotal : qrCartTotalQuantity rest + quantity ≤ limits.maxTotalQuantity) :
    Fits limits rest { line with quantity } where
  freshId := hfits.freshId
  freshKey := hfits.freshKey
  positive := hpositive
  productQuantity := hproduct
  totalQuantity := htotal
  productAllowed := hfits.productAllowed
  lineCount := hfits.lineCount

/-! ## Adding -/

theorem modify_middle {Item : Type*} (first last : List Item) (item : Item)
    (change : Item → Item) :
    (first ++ item :: last).modify first.length change = first ++ change item :: last := by
  induction first with
  | nil => rfl
  | cons head first ih =>
      rw [List.cons_append, List.length_cons, List.modify_succ_cons, ih, List.cons_append]

/-- A line found by its key splits the cart. -/
theorem split_of_findIdx {key : QrCartLineKey} {index : ℕ}
    (hfound : (lines.findIdx? fun line => line.key = key) = some index) :
    ∃ before line after, lines = before ++ line :: after ∧ before.length = index
      ∧ line.key = key := by
  obtain ⟨hlt, hkey, -⟩ := List.findIdx?_eq_some_iff_getElem.mp hfound
  refine ⟨lines.take index, lines[index], lines.drop (index + 1), ?_, ?_, by simpa using hkey⟩
  · rw [← List.drop_eq_getElem_cons, List.take_append_drop]
  · rw [List.length_take]
    omega

theorem key_fresh_of_findIdx {key : QrCartLineKey}
    (hfound : (lines.findIdx? fun line => line.key = key) = none) :
    key ∉ lines.map QrCartLine.key := by
  intro hmem
  obtain ⟨line, hline, hkey⟩ := List.mem_map.mp hmem
  have hnot := List.findIdx?_eq_none_iff.mp hfound line hline
  rw [decide_eq_false_iff_not] at hnot
  exact hnot hkey

/-- More of a line that is there already. -/
theorem WellFormed.more (hformed : WellFormed limits lines) {key : QrCartLineKey} {index : ℕ}
    (hfound : (lines.findIdx? fun line => line.key = key) = some index) {quantity : ℤ}
    (hpositive : 1 ≤ quantity)
    (hproduct : qrCartProductQuantity lines key.productId + quantity ≤ limits.maxItemQuantity)
    (htotal : qrCartTotalQuantity lines + quantity ≤ limits.maxTotalQuantity) :
    WellFormed limits (lines.modify index fun line =>
      { line with quantity := line.quantity + quantity }) := by
  obtain ⟨before, line, after, rfl, rfl, hkey⟩ := split_of_findIdx hfound
  obtain ⟨hrest, hfits⟩ := wellFormed_middle_iff.mp hformed
  have hsame : key.productId = line.productId := by
    rw [← hkey]
    rfl
  rw [qrCartProductQuantity_perm List.perm_middle, hsame,
    qrCartProductQuantity_cons_self] at hproduct
  rw [qrCartTotalQuantity_perm List.perm_middle, qrCartTotalQuantity_cons] at htotal
  have hone := hfits.positive
  rw [modify_middle]
  exact wellFormed_middle_iff.mpr
    ⟨hrest, hfits.withQuantity (by omega) (by omega) (by omega)⟩

theorem WellFormed.append (hformed : WellFormed limits lines) (hfits : Fits limits lines line) :
    WellFormed limits (lines ++ [line]) := by
  rw [wellFormed_middle_iff, List.append_nil]
  exact ⟨hformed, hfits⟩

theorem wellFormed_add {added : List QrCartLine} {input : QrCartLineInput}
    {createId : CodeUnits} (hformed : WellFormed limits lines)
    (hfresh : createId ∉ lines.map fun line => line.id)
    (hadd : addQrCartLine lines input limits createId = some added) :
    WellFormed limits added := by
  unfold addQrCartLine at hadd
  split at hadd
  · cases hadd
  split at hadd
  · cases hadd
  split at hadd
  · cases hadd
  next hpositive hproduct htotal =>
    split at hadd
    · next index hfound =>
        cases hadd
        exact hformed.more hfound (by omega) (not_lt.mp hproduct) (not_lt.mp htotal)
    · next hfound =>
        split at hadd
        · cases hadd
        split at hadd
        · cases hadd
        next hallowed hcount =>
          cases hadd
          exact hformed.append {
            freshId := hfresh
            freshKey := key_fresh_of_findIdx hfound
            positive := by
              change 1 ≤ input.quantity
              omega
            productQuantity := not_lt.mp hproduct
            totalQuantity := not_lt.mp htotal
            productAllowed := hallowed
            lineCount := not_le.mp hcount }

/-! ## Changing and replacing -/

/-- A line found by its id splits the cart into it and the lines with other ids. -/
theorem WellFormed.split_of_find (hformed : WellFormed limits lines)
    (hfound : (lines.find? fun line => line.id = lineId) = some line) :
    ∃ before after, lines = before ++ line :: after ∧ line.id = lineId
      ∧ (∀ other ∈ before ++ after, other.id ≠ lineId)
      ∧ WellFormed limits (before ++ after) ∧ Fits limits (before ++ after) line := by
  obtain ⟨hid, before, after, rfl, -⟩ := List.find?_eq_some_iff_append.mp hfound
  rw [decide_eq_true_eq] at hid
  obtain ⟨hrest, hfits⟩ := wellFormed_middle_iff.mp hformed
  refine ⟨before, after, rfl, hid, fun other hmem heq => ?_, hrest, hfits⟩
  exact hfits.freshId (List.mem_map.mpr ⟨other, hmem, by rw [heq, hid]⟩)

theorem filter_ids_eq_self (hother : ∀ other ∈ lines, other.id ≠ lineId) :
    (lines.filter fun line => line.id ≠ lineId) = lines :=
  List.filter_eq_self.mpr fun other hmem => decide_eq_true (hother other hmem)

/-- The lines without the one that was found. -/
theorem filter_middle (hid : line.id = lineId)
    (hother : ∀ other ∈ before ++ after, other.id ≠ lineId) :
    ((before ++ line :: after).filter fun line => line.id ≠ lineId) = before ++ after := by
  rw [List.filter_append, List.filter_cons_of_neg (by simp [hid]), ← List.filter_append,
    filter_ids_eq_self hother]

/-- Changing the lines with an id changes only the one that was found. -/
theorem map_middle (hid : line.id = lineId)
    (hother : ∀ other ∈ before ++ after, other.id ≠ lineId) (change : QrCartLine → QrCartLine) :
    ((before ++ line :: after).map fun line => if line.id = lineId then change line else line)
      = before ++ change line :: after := by
  have hsame : ∀ part : List QrCartLine, (∀ other ∈ part, other.id ≠ lineId) →
      (part.map fun line => if line.id = lineId then change line else line) = part := by
    intro part hpart
    conv_rhs => rw [← List.map_id part]
    exact List.map_congr_left fun other hmem => if_neg (hpart other hmem)
  rw [List.map_append, List.map_cons, if_pos hid,
    hsame before fun other hmem => hother other (List.mem_append_left after hmem),
    hsame after fun other hmem => hother other (List.mem_append_right before hmem)]

theorem wellFormed_update {updated : List QrCartLine} {quantity : ℤ}
    (hformed : WellFormed limits lines)
    (hupdate : updateQrCartLineQuantity lines lineId quantity limits = some updated) :
    WellFormed limits updated := by
  unfold updateQrCartLineQuantity at hupdate
  split at hupdate
  · cases hupdate
  · next current hfound =>
      obtain ⟨before, after, rfl, hid, hother, hrest, hfits⟩ := hformed.split_of_find hfound
      simp only [filter_middle hid hother, map_middle hid hother] at hupdate
      split at hupdate
      · cases hupdate
        exact hrest
      split at hupdate
      · cases hupdate
      split at hupdate
      · cases hupdate
      next hpositive hproduct htotal =>
        cases hupdate
        exact wellFormed_middle_iff.mpr
          ⟨hrest, hfits.withQuantity (by omega) (not_lt.mp hproduct) (not_lt.mp htotal)⟩

/-- The lines of a cart whose key differs from a key that some line has. -/
theorem WellFormed.split_of_key (hformed : WellFormed limits lines) {key : QrCartLineKey}
    (hfound : (lines.find? fun line => line.key = key) = some line) :
    ∃ before after, lines = before ++ line :: after ∧ line.key = key
      ∧ (∀ other ∈ before ++ after, other.id ≠ line.id)
      ∧ WellFormed limits (before ++ after) ∧ Fits limits (before ++ after) line := by
  obtain ⟨hkey, before, after, rfl, -⟩ := List.find?_eq_some_iff_append.mp hfound
  rw [decide_eq_true_eq] at hkey
  obtain ⟨hrest, hfits⟩ := wellFormed_middle_iff.mp hformed
  refine ⟨before, after, rfl, hkey, fun other hmem heq => ?_, hrest, hfits⟩
  exact hfits.freshId (List.mem_map.mpr ⟨other, hmem, heq⟩)

/-- A line that takes over the id of the line it replaces and the quantity of the line it
repeats. -/
theorem Fits.replacement {input : QrCartLineInput} {duplicate : QrCartLine}
    (hfits : Fits limits rest duplicate) (hkey : duplicate.key = qrCartLineKey input)
    (hid : ∀ other ∈ rest, other.id ≠ lineId) (hpositive : 1 ≤ input.quantity)
    (hproduct : qrCartProductQuantity (duplicate :: rest) input.productId + input.quantity
      ≤ limits.maxItemQuantity)
    (htotal : qrCartTotalQuantity (duplicate :: rest) + input.quantity
      ≤ limits.maxTotalQuantity) :
    Fits limits rest {
      input with id := lineId, quantity := input.quantity + duplicate.quantity } := by
  have hproductId : duplicate.productId = input.productId :=
    congrArg QrCartLineKey.productId hkey
  have hone := hfits.positive
  rw [← hproductId, qrCartProductQuantity_cons_self] at hproduct
  rw [qrCartTotalQuantity_cons] at htotal
  constructor
  · intro hmem
    obtain ⟨other, hother, heq⟩ := List.mem_map.mp hmem
    exact hid other hother heq
  · have hfresh := hfits.freshKey
    rw [hkey] at hfresh
    exact hfresh
  · change 1 ≤ input.quantity + duplicate.quantity
    omega
  · change qrCartProductQuantity rest input.productId + (input.quantity + duplicate.quantity)
      ≤ limits.maxItemQuantity
    rw [← hproductId]
    omega
  · change qrCartTotalQuantity rest + (input.quantity + duplicate.quantity)
      ≤ limits.maxTotalQuantity
    omega
  · change ¬productRefused limits rest input.productId
    rw [← hproductId]
    exact hfits.productAllowed
  · exact hfits.lineCount

/-- The lines around a line after the lines with another id are left out. -/
theorem filter_others_middle {otherId : CodeUnits} (hdiff : line.id ≠ otherId) :
    ((before ++ line :: after).filter fun line => some line.id ≠ some otherId)
      = (before.filter fun line => line.id ≠ otherId)
        ++ line :: after.filter fun line => line.id ≠ otherId := by
  simp [List.filter_append, hdiff]

/-- A line that no other line repeats goes into the place of the line it replaces. -/
theorem fits_of_new {input : QrCartLineInput}
    (hnew : (rest.find? fun line => line.key = qrCartLineKey input) = none)
    (hid : ∀ other ∈ rest, other.id ≠ lineId) (hpositive : 1 ≤ input.quantity)
    (hproduct : qrCartProductQuantity rest input.productId + input.quantity
      ≤ limits.maxItemQuantity)
    (htotal : qrCartTotalQuantity rest + input.quantity ≤ limits.maxTotalQuantity)
    (hallowed : ¬productRefused limits rest input.productId)
    (hcount : rest.length < qrCartMaxLines) :
    Fits limits rest { input with id := lineId } where
  freshId hmem := by
    obtain ⟨other, hother, heq⟩ := List.mem_map.mp hmem
    exact hid other hother heq
  freshKey hmem := by
    obtain ⟨other, hother, heq⟩ := List.mem_map.mp hmem
    have hnot := List.find?_eq_none.mp hnew other hother
    rw [decide_eq_true_eq] at hnot
    exact hnot heq
  positive := hpositive
  productQuantity := hproduct
  totalQuantity := htotal
  productAllowed := hallowed
  lineCount := hcount

theorem wellFormed_replace {replaced : List QrCartLine} {input : QrCartLineInput}
    (hformed : WellFormed limits lines)
    (hreplace : replaceQrCartLine lines lineId input limits = some replaced) :
    WellFormed limits replaced := by
  unfold replaceQrCartLine at hreplace
  split at hreplace
  · cases hreplace
  · next current hfound =>
      obtain ⟨before, after, rfl, hid, hother, hrest, hfits⟩ := hformed.split_of_find hfound
      simp only [filter_middle hid hother] at hreplace
      split at hreplace
      · cases hreplace
      split at hreplace
      · cases hreplace
      split at hreplace
      · cases hreplace
      split at hreplace
      · cases hreplace
      next hpositive hproduct htotal hallowed =>
        rw [not_lt] at hpositive hproduct htotal
        rcases hduplicate : (before ++ after).find? fun line =>
          line.key = qrCartLineKey input with _ | duplicate
        · have hkept : ((before ++ current :: after).filter fun line =>
              some line.id ≠ none) = before ++ current :: after :=
            List.filter_eq_self.mpr fun line _ => decide_eq_true (Option.some_ne_none line.id)
          simp only [hduplicate, Option.map_none, Option.getD_none, add_zero] at hreplace
          rw [hkept, map_middle hid hother] at hreplace
          cases hreplace
          exact wellFormed_middle_iff.mpr ⟨hrest,
            fits_of_new hduplicate hother hpositive hproduct htotal hallowed hfits.lineCount⟩
        · obtain ⟨front, back, hsplit, hkey, hapart, hformed', hfits'⟩ :=
            hrest.split_of_key hduplicate
          have hdupId : current.id ≠ duplicate.id := by
            rw [hid]
            apply Ne.symm
            apply hother
            rw [hsplit]
            exact List.mem_append_right front List.mem_cons_self
          have hremaining : ((before.filter fun line => line.id ≠ duplicate.id)
              ++ after.filter fun line => line.id ≠ duplicate.id) = front ++ back := by
            rw [← List.filter_append, hsplit]
            exact filter_middle rfl hapart
          have hother' : ∀ other ∈ (before.filter fun line => line.id ≠ duplicate.id)
              ++ after.filter (fun line => line.id ≠ duplicate.id), other.id ≠ lineId := by
            intro other hmem
            rw [← List.filter_append] at hmem
            exact hother other (List.mem_of_mem_filter hmem)
          simp only [hduplicate, Option.map_some, Option.getD_some] at hreplace
          rw [filter_others_middle hdupId, map_middle hid hother'] at hreplace
          cases hreplace
          rw [hremaining] at hother'
          rw [hsplit, qrCartProductQuantity_perm List.perm_middle] at hproduct
          rw [hsplit, qrCartTotalQuantity_perm List.perm_middle] at htotal
          rw [wellFormed_middle_iff, hremaining]
          exact ⟨hformed', hfits'.replacement hkey hother' hpositive hproduct htotal⟩

end Stallorder.QrCart
