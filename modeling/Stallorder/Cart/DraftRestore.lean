import Stallorder.Cart.WellFormed
import Stallorder.Core.Run

/-!
# Restored carts

Restoration clamps quantities, merges equal configurations and renames lines
whose id is taken.  A renamed line can hit the id of another line, and only
then does restoration return a cart whose lines are not told apart.  A cart
whose lines can be stored as they are comes back from its own draft unchanged.
-/

namespace Stallorder.QrCart

open CodeUnits

variable {integerOf : Json → Option ℤ} {products : List CatalogProduct} {limits : QrCartLimits}
  {index : ℕ} {fields : JsonFields} {rawLine : Json} {rawLines : List Json}
  {state : RestoreState} {line : QrCartLine} {lines before after : List QrCartLine}
  {productId : CodeUnits}

/-! ## What a draft must keep apart -/

/-- A line whose texts and options a draft keeps as they are. -/
structure Storable (limits : QrCartLimits) (line : QrCartLineInput) : Prop where
  shortNote : line.note.length ≤ limits.maxNoteLength
  distinctNoteOptions : line.noteOptionIds.Nodup
  distinctBundleChoices : line.bundleChoiceIds.Nodup

abbrev AllStorable (limits : QrCartLimits) (lines : List QrCartLine) : Prop :=
  ∀ line ∈ lines, Trimmed line.id ∧ Storable limits line.toQrCartLineInput

/-- Every line of the draft that opens a new line of the cart meets a condition. -/
def AllOpened (integerOf : Json → Option ℤ) (products : List CatalogProduct)
    (limits : QrCartLimits) (condition : ℕ → JsonFields → RestoreState → QrCartLine → Prop) :
    ℕ → List Json → RestoreState → Prop
  | _, [], _ => True
  | index, rawLine :: rawLines, state =>
      if qrCartMaxLines ≤ state.lines.length then True
      else match rawLine.asRecord with
      | none => True
      | some fields =>
          match nextLine integerOf products limits index fields state with
          | none => AllOpened integerOf products limits condition (index + 1) rawLines state
          | some line =>
              (sameConfiguration state.lines line = none → condition index fields state line)
                ∧ AllOpened integerOf products limits condition (index + 1) rawLines
                  (placeLine state line)

/-- The line is opened under an id that no line has. -/
def opensFresh (_index : ℕ) (_rawLine : JsonFields) (state : RestoreState)
    (line : QrCartLine) : Prop :=
  line.id ∉ state.usedIds

/-- The lines of a draft that open a new line of the cart: their positions and their own ids. -/
def openedIds (integerOf : Json → Option ℤ) (products : List CatalogProduct)
    (limits : QrCartLimits) : ℕ → List Json → RestoreState → List (ℕ × CodeUnits)
  | _, [], _ => []
  | index, rawLine :: rawLines, state =>
      if qrCartMaxLines ≤ state.lines.length then []
      else match rawLine.asRecord with
      | none => []
      | some fields =>
          match nextLine integerOf products limits index fields state with
          | none => openedIds integerOf products limits (index + 1) rawLines state
          | some line =>
              let later := openedIds integerOf products limits (index + 1) rawLines
                (placeLine state line)
              if sameConfiguration state.lines line = none then
                (index, preferredId index fields line.productId) :: later
              else later

/-- The id that a line gets when its own one is taken. -/
def numberedId (id : CodeUnits) (index : ℕ) : CodeUnits := id ++ (ofAscii ":" ++ ofNat index)

/-- An earlier line has the id, or is renamed to it.  The last of the lines comes first. -/
def Taken : List (ℕ × CodeUnits) → CodeUnits → Prop
  | [], _ => False
  | (index, own) :: earlier, id =>
      id = own ∨ (Taken earlier own ∧ id = numberedId own index) ∨ Taken earlier id

/-- No line whose id is taken finds an earlier line under the id that it is renamed to. -/
def OwnIdsApart : List (ℕ × CodeUnits) → List (ℕ × CodeUnits) → Prop
  | _, [] => True
  | earlier, (index, own) :: later =>
      (Taken earlier own → numberedId own index ∉ earlier.map Prod.snd)
        ∧ OwnIdsApart ((index, own) :: earlier) later

/-- The line of the draft has an id of its own. -/
def hasOwnId (rawLine : JsonFields) : Prop :=
  ∃ id, rawLine.text? (ofAscii "id") = some id ∧ trim id ≠ []

/-- The line is opened under an id that does not end in white space. -/
def opensTrimmed (index : ℕ) (rawLine : JsonFields) (state : RestoreState)
    (line : QrCartLine) : Prop :=
  hasOwnId rawLine ∨ EndsTrimmed line.productId
    ∨ preferredId index rawLine line.productId ∈ state.usedIds

/-! ## One line -/

/-- What a line of a draft restores to. -/
structure NextLine (integerOf : Json → Option ℤ) (limits : QrCartLimits) (index : ℕ)
    (fields : JsonFields) (state : RestoreState) (line : QrCartLine) : Prop where
  id : line.id = renamedId state.usedIds index (preferredId index fields line.productId)
  positive : 1 ≤ line.quantity
  productQuantity :
    qrCartProductQuantity state.lines line.productId + line.quantity ≤ limits.maxItemQuantity
  totalQuantity : qrCartTotalQuantity state.lines + line.quantity ≤ limits.maxTotalQuantity
  productAllowed : ¬productRefused limits state.lines line.productId
  shortNote : line.note.length ≤ limits.maxNoteLength
  distinctNoteOptions : line.noteOptionIds.Nodup
  distinctBundleChoices : line.bundleChoiceIds.Nodup

theorem firstOccurrences_nodup (ids : List CodeUnits) : (firstOccurrences ids).Nodup :=
  List.nodup_reverse.mpr (List.nodup_dedup ids.reverse)

theorem sanitizedIds_nodup (value : Option Json) (allowed : List CodeUnits) :
    (sanitizedIds value allowed).Nodup := by
  unfold sanitizedIds
  split
  · exact firstOccurrences_nodup _
  · exact List.nodup_nil

theorem nextLine_spec
    (hnext : nextLine integerOf products limits index fields state = some line) :
    NextLine integerOf limits index fields state line := by
  simp only [nextLine, Option.bind_eq_bind, Option.bind_eq_some_iff, guard,
    Option.pure_def] at hnext
  obtain ⟨product, -, requested, -, _, hguard, hline⟩ := hnext
  split at hguard
  · next hchecked =>
      obtain ⟨hrequested, hquantity, hallowed⟩ := hchecked
      cases hline
      have hproduct := min_le_left
        (limits.maxItemQuantity - qrCartProductQuantity state.lines
          ((fields.text? (ofAscii "productId")).getD []))
        (limits.maxTotalQuantity - qrCartTotalQuantity state.lines)
      have htotal := min_le_right
        (limits.maxItemQuantity - qrCartProductQuantity state.lines
          ((fields.text? (ofAscii "productId")).getD []))
        (limits.maxTotalQuantity - qrCartTotalQuantity state.lines)
      exact {
        id := rfl
        positive := hquantity
        productQuantity := by
          have hle := (min_le_right requested _).trans hproduct
          simp only
          linarith
        totalQuantity := by
          have hle := (min_le_right requested _).trans htotal
          simp only
          linarith
        productAllowed := hallowed
        shortNote := List.length_take_le _ _
        distinctNoteOptions := sanitizedIds_nodup _ _
        distinctBundleChoices := sanitizedIds_nodup _ _ }
  · cases hguard

/-! ## The ids -/

theorem fallbackId_trimmed (index : ℕ) (hends : EndsTrimmed productId) :
    Trimmed (ofAscii "restored:" ++ ofNat index ++ ofAscii ":" ++ productId) := by
  have hfront : StartsTrimmed (ofAscii "restored:") := by
    intro unit hunit
    cases hunit
    decide
  have hseparator : EndsTrimmed (ofAscii ":") := by
    intro unit hunit
    cases hunit
    decide
  refine ⟨by simp [ofAscii], ?_, ?_⟩
  · rw [List.append_assoc, List.append_assoc]
    exact startsTrimmed_append (by decide) hfront
  · by_cases hempty : productId = []
    · rw [hempty, List.append_nil]
      exact endsTrimmed_append (by decide) hseparator
    · exact endsTrimmed_append hempty hends

theorem preferredId_of_ownId (hown : hasOwnId fields) :
    Trimmed (preferredId index fields productId) := by
  obtain ⟨id, hid, hnonblank⟩ := hown
  simp only [preferredId, hid, Option.map_some, if_neg hnonblank]
  exact trimmed_trim hnonblank

theorem preferredId_of_blank (hown : ¬hasOwnId fields) :
    preferredId index fields productId
      = ofAscii "restored:" ++ ofNat index ++ ofAscii ":" ++ productId := by
  unfold preferredId
  rcases hid : fields.text? (ofAscii "id") with _ | id
  · rfl
  · have hblank : trim id = [] := by
      by_contra hnonblank
      exact hown ⟨id, hid, hnonblank⟩
    simp only [Option.map_some, if_pos hblank]

theorem preferredId_nonempty : preferredId index fields productId ≠ []
    ∧ StartsTrimmed (preferredId index fields productId) := by
  by_cases hown : hasOwnId fields
  · have htrimmed : Trimmed (preferredId index fields productId) := preferredId_of_ownId hown
    exact ⟨htrimmed.nonempty, htrimmed.starts⟩
  · rw [preferredId_of_blank hown]
    have hends : EndsTrimmed [] := by
      intro unit hunit
      cases hunit
    have htrimmed := fallbackId_trimmed index hends
    rw [List.append_nil] at htrimmed
    exact ⟨by simp [ofAscii], startsTrimmed_append htrimmed.nonempty htrimmed.starts⟩

/-- The id a line is opened under is trimmed. -/
theorem NextLine.trimmedId (hnext : NextLine integerOf limits index fields state line)
    (hkept : opensTrimmed index fields state line) : Trimmed line.id := by
  rw [hnext.id, renamedId]
  by_cases hused : preferredId index fields line.productId ∈ state.usedIds
  · rw [if_pos hused]
    obtain ⟨hnonempty, hstarts⟩ := @preferredId_nonempty index fields line.productId
    refine ⟨by simp [ofAscii], startsTrimmed_append hnonempty hstarts, ?_⟩
    exact endsTrimmed_append (by simp [ofAscii])
      (endsTrimmed_append (ofNat_ne_nil index) (ofNat_ends index))
  · rw [if_neg hused]
    by_cases hown : hasOwnId fields
    · exact preferredId_of_ownId hown
    · rw [preferredId_of_blank hown]
      exact fallbackId_trimmed index ((hkept.resolve_left hown).resolve_right hused)

/-! ## The loop -/

theorem map_id_modify (index : ℕ) (quantity : ℤ) :
    ((lines.modify index fun line => { line with quantity := line.quantity + quantity }).map
      fun line => line.id) = lines.map fun line => line.id := by
  induction lines generalizing index with
  | nil => rw [List.modify_nil]
  | cons line lines ih =>
      cases index with
      | zero => rfl
      | succ index => rw [List.modify_succ_cons, List.map_cons, ih, List.map_cons]

theorem placeLine_usedIds (hids : state.usedIds = state.lines.map fun line => line.id)
    (line : QrCartLine) :
    (placeLine state line).usedIds = (placeLine state line).lines.map fun line => line.id := by
  unfold placeLine
  split
  · rw [map_id_modify]
    exact hids
  · rw [List.map_append, List.map_singleton, hids]

/-- Placing a line keeps the ids of the lines before it. -/
theorem placeLine_extends_ids (state : RestoreState) (line : QrCartLine) :
    (state.lines.map fun line => line.id)
      <+: (placeLine state line).lines.map fun line => line.id := by
  unfold placeLine
  split
  · rw [map_id_modify]
  · rw [List.map_append]
    exact List.prefix_append _ _

/-- What the loop has taken over is a well-formed cart, and its ids are recorded. -/
structure Restored (limits : QrCartLimits) (state : RestoreState) : Prop where
  wellFormed : WellFormed limits state.lines
  usedIds : state.usedIds = state.lines.map fun line => line.id

theorem restored_start : Restored limits { lines := [], usedIds := [] } where
  wellFormed := wellFormed_nil
  usedIds := rfl

theorem Restored.place (hrestored : Restored limits state)
    (hnext : NextLine integerOf limits index fields state line)
    (hcount : ¬qrCartMaxLines ≤ state.lines.length)
    (hopens : sameConfiguration state.lines line = none → opensFresh index fields state line) :
    Restored limits (placeLine state line) := by
  refine ⟨?_, placeLine_usedIds hrestored.usedIds line⟩
  unfold placeLine
  split
  · next existingIndex hfound =>
      exact hrestored.wellFormed.more hfound hnext.positive hnext.productQuantity
        hnext.totalQuantity
  · next hnew =>
      have hfresh : line.id ∉ state.usedIds := hopens hnew
      apply hrestored.wellFormed.append
      exact {
        freshId := by rwa [← hrestored.usedIds]
        freshKey := key_fresh_of_findIdx hnew
        positive := hnext.positive
        productQuantity := hnext.productQuantity
        totalQuantity := hnext.totalQuantity
        productAllowed := hnext.productAllowed
        lineCount := not_le.mp hcount }

theorem allStorable_modify (hstorable : AllStorable limits lines) (index : ℕ) (quantity : ℤ) :
    AllStorable limits
      (lines.modify index fun line => { line with quantity := line.quantity + quantity }) := by
  intro line hmem
  obtain ⟨position, hlt, heq⟩ := List.mem_iff_getElem.mp hmem
  rw [List.length_modify] at hlt
  obtain ⟨htrimmed, hline⟩ := hstorable lines[position] (List.getElem_mem hlt)
  rw [List.getElem_modify] at heq
  rw [← heq]
  split
  · exact ⟨htrimmed, hline.shortNote, hline.distinctNoteOptions, hline.distinctBundleChoices⟩
  · exact ⟨htrimmed, hline⟩

theorem allStorable_append (hstorable : AllStorable limits lines) (htrimmed : Trimmed line.id)
    (hline : Storable limits line.toQrCartLineInput) : AllStorable limits (lines ++ [line]) := by
  intro other hmem
  rcases List.mem_append.mp hmem with hold | hlast
  · exact hstorable other hold
  · rw [List.mem_singleton.mp hlast]
    exact ⟨htrimmed, hline⟩

theorem allStorable_place (hstorable : AllStorable limits state.lines)
    (hnext : NextLine integerOf limits index fields state line)
    (hopens : sameConfiguration state.lines line = none →
      opensTrimmed index fields state line) :
    AllStorable limits (placeLine state line).lines := by
  unfold placeLine
  split
  · next existingIndex hfound => exact allStorable_modify hstorable existingIndex line.quantity
  · next hnew =>
      exact allStorable_append hstorable (hnext.trimmedId (hopens hnew))
        ⟨hnext.shortNote, hnext.distinctNoteOptions, hnext.distinctBundleChoices⟩

/-- The invariant rule of the loop: what placing a line keeps, when the lines that are
opened meet a condition, the loop keeps. -/
theorem restoreLines_invariant (Invariant : RestoreState → Prop)
    {condition : ℕ → JsonFields → RestoreState → QrCartLine → Prop}
    (hplace : ∀ index fields state line, Invariant state →
      NextLine integerOf limits index fields state line →
      ¬qrCartMaxLines ≤ state.lines.length →
      (sameConfiguration state.lines line = none → condition index fields state line) →
      Invariant (placeLine state line))
    (hstate : Invariant state)
    (hopened : AllOpened integerOf products limits condition index rawLines state) :
    Invariant (restoreLines integerOf products limits index rawLines state) := by
  induction rawLines generalizing index state with
  | nil => exact hstate
  | cons rawLine rawLines ih =>
      unfold restoreLines
      unfold AllOpened at hopened
      split
      · exact hstate
      next hcount =>
        rw [if_neg hcount] at hopened
        rcases hrecord : rawLine.asRecord with _ | fields
        · exact hstate
        · simp only [hrecord] at hopened ⊢
          rcases hnext : nextLine integerOf products limits index fields state with _ | line
          · simp only [hnext] at hopened
            exact ih hstate hopened
          · simp only [hnext] at hopened
            exact ih (hplace index fields state line hstate (nextLine_spec hnext) hcount
              hopened.1) hopened.2

theorem restoreLines_restored
    (hopened : AllOpened integerOf products limits opensFresh index rawLines
      { lines := [], usedIds := [] }) :
    Restored limits (restoreLines integerOf products limits index rawLines
      { lines := [], usedIds := [] }) :=
  restoreLines_invariant (Restored limits)
    (fun _ _ _ _ hrestored hnext hcount hopens => hrestored.place hnext hcount hopens)
    restored_start hopened

theorem restoreLines_storable
    (hopened : AllOpened integerOf products limits opensTrimmed index rawLines
      { lines := [], usedIds := [] }) :
    AllStorable limits (restoreLines integerOf products limits index rawLines
      { lines := [], usedIds := [] }).lines :=
  restoreLines_invariant (fun state => AllStorable limits state.lines)
    (fun _ _ _ _ hstorable hnext _ hopens => allStorable_place hstorable hnext hopens)
    (fun line hmem => by cases hmem) hopened

/-! ## When the ids stay apart -/

/-- The ids that lines have stay the first ids of the cart. -/
theorem usedIds_isPrefix (hids : state.usedIds = state.lines.map fun line => line.id) :
    (state.lines.map fun line => line.id)
      <+: (restoreLines integerOf products limits index rawLines state).lines.map
        fun line => line.id := by
  induction rawLines generalizing index state with
  | nil => exact List.prefix_rfl
  | cons rawLine rawLines ih =>
      unfold restoreLines
      split
      · exact List.prefix_rfl
      rcases hrecord : rawLine.asRecord with _ | fields
      · exact List.prefix_rfl
      · rcases hnext : nextLine integerOf products limits index fields state with _ | line
        · simpa only [hnext] using ih hids
        · simp only [hnext]
          exact (placeLine_extends_ids state line).trans (ih (placeLine_usedIds hids line))

theorem allOpened_of_nodup (hids : state.usedIds = state.lines.map fun line => line.id)
    (hnodup : ((restoreLines integerOf products limits index rawLines state).lines.map
      fun line => line.id).Nodup) :
    AllOpened integerOf products limits opensFresh index rawLines state := by
  induction rawLines generalizing index state with
  | nil => trivial
  | cons rawLine rawLines ih =>
      unfold AllOpened
      unfold restoreLines at hnodup
      split
      · trivial
      next hcount =>
        rw [if_neg hcount] at hnodup
        rcases hrecord : rawLine.asRecord with _ | fields
        · trivial
        · simp only [hrecord] at hnodup ⊢
          rcases hnext : nextLine integerOf products limits index fields state with _ | line
          · simp only [hnext] at hnodup
            exact ih hids hnodup
          · simp only [hnext] at hnodup
            have hplaced := placeLine_usedIds hids line
            refine ⟨fun hnew hused => ?_, ih hplaced hnodup⟩
            have hplacedNodup := hnodup.sublist (usedIds_isPrefix hplaced).sublist
            rw [placeLine, hnew, List.map_append, List.map_singleton, ← hids] at hplacedNodup
            exact (List.nodup_append.mp hplacedNodup).2.2 line.id hused line.id
              List.mem_cons_self rfl

/-! ### The own ids of a draft -/

section OwnIds

variable {earlier : List (ℕ × CodeUnits)} {id : CodeUnits}

/-- Two lines are never renamed to the same id. -/
theorem taken_numberedId_iff (hearlier : ∀ entry ∈ earlier, entry.1 < index) :
    Taken earlier (numberedId id index) ↔ numberedId id index ∈ earlier.map Prod.snd := by
  induction earlier with
  | nil => exact iff_of_false not_false List.not_mem_nil
  | cons entry earlier ih =>
      obtain ⟨hbefore, hothers⟩ := List.forall_mem_cons.mp hearlier
      have hrenamed : ¬(Taken earlier entry.2 ∧ numberedId id index = numberedId entry.2 entry.1) :=
        fun ⟨_, hsame⟩ => hbefore.ne' (eq_of_numbered_eq hsame)
      rw [Taken, List.map_cons, List.mem_cons, or_iff_right hrenamed, ih hothers]

theorem renamedId_mem_iff (hused : ∀ id, id ∈ state.usedIds ↔ Taken earlier id)
    (hearlier : ∀ entry ∈ earlier, entry.1 < index) :
    renamedId state.usedIds index id ∈ state.usedIds
      ↔ Taken earlier id ∧ numberedId id index ∈ earlier.map Prod.snd := by
  rw [← taken_numberedId_iff hearlier, ← hused, ← hused, renamedId]
  split_ifs with htaken
  · exact (and_iff_right htaken).symm
  · exact iff_of_false htaken fun hboth => htaken hboth.1

theorem mem_placed_usedIds_iff (hused : ∀ id, id ∈ state.usedIds ↔ Taken earlier id)
    {own : CodeUnits} :
    id ∈ state.usedIds ++ [renamedId state.usedIds index own]
      ↔ Taken ((index, own) :: earlier) id := by
  rw [List.mem_append, List.mem_singleton, renamedId, Taken, ← hused, ← hused]
  split_ifs with htaken
  · constructor
    · rintro (hold | hnew)
      · exact .inr (.inr hold)
      · exact .inr (.inl ⟨htaken, hnew⟩)
    · rintro (rfl | ⟨-, hnew⟩ | hold)
      · exact .inl htaken
      · exact .inr hnew
      · exact .inl hold
  · constructor
    · rintro (hold | hnew)
      · exact .inr (.inr hold)
      · exact .inl hnew
    · rintro (hnew | ⟨hown, -⟩ | hold)
      · exact .inr hnew
      · exact absurd hown htaken
      · exact .inl hold

/-- The lines keep their ids apart exactly when the own ids of the draft do. -/
theorem allOpened_opensFresh_iff (hused : ∀ id, id ∈ state.usedIds ↔ Taken earlier id)
    (hearlier : ∀ entry ∈ earlier, entry.1 < index) :
    AllOpened integerOf products limits opensFresh index rawLines state
      ↔ OwnIdsApart earlier (openedIds integerOf products limits index rawLines state) := by
  induction rawLines generalizing index state earlier with
  | nil => exact Iff.rfl
  | cons rawLine rawLines ih =>
      have hlater : ∀ entry ∈ earlier, entry.1 < index + 1 := fun entry hentry =>
        (hearlier entry hentry).trans (Nat.lt_succ_self index)
      rw [AllOpened, openedIds]
      split_ifs with hcount
      · exact Iff.rfl
      rcases rawLine.asRecord with _ | fields
      · exact Iff.rfl
      dsimp only
      rcases hnext : nextLine integerOf products limits index fields state with _ | line
      · exact ih hused hlater
      dsimp only
      have hid := (nextLine_spec hnext).id
      split_ifs with hnew
      · have hplaced : (placeLine state line).usedIds = state.usedIds ++ [line.id] := by
          rw [placeLine, hnew]
        rw [OwnIdsApart, forall_prop_of_true hnew, opensFresh, hid,
          renamedId_mem_iff hused hearlier, not_and]
        refine and_congr_right fun _ => ih (fun id => ?_) ?_
        · rw [hplaced, hid]
          exact mem_placed_usedIds_iff hused
        · exact List.forall_mem_cons.mpr ⟨Nat.lt_succ_self index, hlater⟩
      · obtain ⟨existing, hexisting⟩ := Option.ne_none_iff_exists'.mp hnew
        have hplaced : (placeLine state line).usedIds = state.usedIds := by
          rw [placeLine, hexisting]
        rw [and_iff_right fun hnone => absurd hnone hnew]
        exact ih (fun id => by rw [hplaced, hused]) hlater

end OwnIds

theorem allOpened_iff_ownIdsApart :
    AllOpened integerOf products limits opensFresh index rawLines { lines := [], usedIds := [] }
      ↔ OwnIdsApart [] (openedIds integerOf products limits index rawLines
        { lines := [], usedIds := [] }) :=
  allOpened_opensFresh_iff (fun _ => iff_of_false List.not_mem_nil not_false)
    fun _ hentry => absurd hentry List.not_mem_nil

/-- A restored cart tells its lines apart exactly when no line is renamed to the id of
another one. -/
theorem restored_ids_nodup_iff :
    ((restoreLines integerOf products limits index rawLines
        { lines := [], usedIds := [] }).lines.map fun line => line.id).Nodup
      ↔ OwnIdsApart [] (openedIds integerOf products limits index rawLines
        { lines := [], usedIds := [] }) := by
  rw [← allOpened_iff_ownIdsApart]
  exact ⟨allOpened_of_nodup rfl, fun hopened =>
    (restoreLines_restored hopened).wellFormed.distinctIds⟩

/-! ## A draft of the cart itself -/

/-- The product of the line and all its options are in the catalog. -/
def InCatalog (products : List CatalogProduct) (line : QrCartLine) : Prop :=
  ∃ product, productById products line.productId = some product
    ∧ line.noteOptionIds ⊆ product.noteGroups.flatten
    ∧ line.bundleChoiceIds ⊆ product.bundleChoiceGroups.flatten

theorem firstOccurrences_eq_self {ids : List CodeUnits} (hnodup : ids.Nodup) :
    firstOccurrences ids = ids := by
  unfold firstOccurrences
  rw [List.dedup_eq_self.mpr (List.nodup_reverse.mpr hnodup), List.reverse_reverse]

theorem sanitizedIds_eq_self {ids allowed : List CodeUnits} (hnodup : ids.Nodup)
    (hallowed : ids ⊆ allowed) :
    sanitizedIds (some (.array (ids.map .text))) allowed = ids := by
  have htexts : (ids.map Json.text).filterMap Json.asText = ids := by
    rw [List.filterMap_map]
    exact List.filterMap_some
  have hfilter : (ids.filter fun entry => entry ∈ allowed) = ids :=
    List.filter_eq_self.mpr fun id hmem => decide_eq_true (hallowed hmem)
  change firstOccurrences (((ids.map Json.text).filterMap Json.asText).filter _) = ids
  rw [htexts, hfilter, firstOccurrences_eq_self hnodup]

theorem requestedQuantity_number (quantity : ℤ) :
    requestedQuantity integerOf (some (.number (some (quantity : ℚ)))) = some quantity := by
  simp [requestedQuantity]

section LineFields

@[simp]
theorem text_id : (lineFields line).text? (ofAscii "id") = some line.id := rfl

@[simp]
theorem text_productId : (lineFields line).text? (ofAscii "productId") = some line.productId :=
  rfl

@[simp]
theorem field_quantity : (lineFields line).field (ofAscii "quantity")
    = some (.number (some (line.quantity : ℚ))) := rfl

@[simp]
theorem text_note : (lineFields line).text? (ofAscii "note") = some line.note := rfl

@[simp]
theorem field_noteOptionIds : (lineFields line).field (ofAscii "noteOptionIds")
    = some (.array (line.noteOptionIds.map .text)) := rfl

@[simp]
theorem field_bundleChoiceIds : (lineFields line).field (ofAscii "bundleChoiceIds")
    = some (.array (line.bundleChoiceIds.map .text)) := rfl

end LineFields

theorem renamedId_lineFields (hfresh : line.id ∉ state.usedIds) (htrimmed : Trimmed line.id) :
    renamedId state.usedIds index (preferredId index (lineFields line) line.productId)
      = line.id := by
  have hpreferred : preferredId index (lineFields line) line.productId = line.id := by
    simp only [preferredId, text_id, Option.map_some, htrimmed.trim_eq,
      if_neg htrimmed.nonempty]
  rw [hpreferred, renamedId, if_neg hfresh]

/-- A line that fits to the lines before it is read back as it was written. -/
theorem nextLine_lineFields (hfits : Fits limits state.lines line)
    (hids : state.usedIds = state.lines.map fun line => line.id)
    (htrimmed : Trimmed line.id) (hstorable : Storable limits line.toQrCartLineInput)
    (hcatalog : InCatalog products line) :
    nextLine integerOf products limits index (lineFields line) state = some line := by
  obtain ⟨product, hproduct, hnotes, hbundles⟩ := hcatalog
  have hpositive := hfits.positive
  have hmin : min line.quantity
      (min (limits.maxItemQuantity - qrCartProductQuantity state.lines line.productId)
        (limits.maxTotalQuantity - qrCartTotalQuantity state.lines)) = line.quantity := by
    have hproductQuantity := hfits.productQuantity
    have htotalQuantity := hfits.totalQuantity
    omega
  have hfresh : line.id ∉ state.usedIds := by
    rw [hids]
    exact hfits.freshId
  have hguard : 0 < line.quantity ∧ 0 < line.quantity
      ∧ ¬productRefused limits state.lines line.productId :=
    ⟨by omega, by omega, hfits.productAllowed⟩
  simp only [nextLine, text_productId, Option.getD_some, hproduct, field_quantity,
    requestedQuantity_number, Option.bind_eq_bind, Option.bind_some, hmin, guard,
    if_pos hguard, text_note, List.take_of_length_le hstorable.shortNote, field_noteOptionIds,
    sanitizedIds_eq_self hstorable.distinctNoteOptions hnotes, field_bundleChoiceIds,
    sanitizedIds_eq_self hstorable.distinctBundleChoices hbundles,
    renamedId_lineFields hfresh htrimmed, Option.pure_def]

/-- The loop takes over the rest of a cart line by line. -/
theorem restoreLines_lines {taken todo : List QrCartLine}
    (hformed : WellFormed limits (taken ++ todo)) (hstorable : AllStorable limits todo)
    (hcatalog : ∀ line ∈ todo, InCatalog products line) :
    (restoreLines integerOf products limits index
      (todo.map fun line => Json.record (lineFields line))
      { lines := taken, usedIds := taken.map fun line => line.id }).lines = taken ++ todo := by
  induction todo generalizing index taken with
  | nil => rw [List.append_nil]; rfl
  | cons line todo ih =>
      have hall : WellFormed limits ((taken ++ [line]) ++ todo) := by
        rwa [List.append_assoc]
      have hfits : Fits limits taken line := by
        have hmiddle := (wellFormed_middle_iff.mp hall.of_append).2
        rwa [List.append_nil] at hmiddle
      obtain ⟨htrimmed, hline⟩ := hstorable line List.mem_cons_self
      have hnext : nextLine integerOf products limits index (lineFields line)
          { lines := taken, usedIds := taken.map fun line => line.id } = some line :=
        nextLine_lineFields hfits rfl htrimmed hline (hcatalog line List.mem_cons_self)
      have hplace : placeLine { lines := taken, usedIds := taken.map fun line => line.id } line
          = { lines := taken ++ [line], usedIds := (taken ++ [line]).map fun line => line.id } := by
        have hnew : sameConfiguration taken line = none :=
          List.findIdx?_eq_none_iff.mpr fun other hmem => decide_eq_false fun hkey =>
            hfits.freshKey (List.mem_map.mpr ⟨other, hmem, hkey⟩)
        simp only [placeLine, hnew, List.map_append, List.map_singleton]
      rw [List.map_cons, restoreLines, if_neg (not_le.mpr hfits.lineCount)]
      simp only [Json.asRecord, hnext, hplace]
      rw [ih hall (fun other hmem => hstorable other (List.mem_cons_of_mem line hmem))
        (fun other hmem => hcatalog other (List.mem_cons_of_mem line hmem)),
        List.append_assoc, List.singleton_append]

/-! ## The whole draft -/

section DraftFields

variable {draft : QrCartDraft} {now later : ℤ} {context : Option QrCartOrderingMode}

theorem ofName_name (mode : QrCartOrderingMode) :
    QrCartOrderingMode.ofName mode.name = some mode := by
  cases mode <;> decide +kernel

theorem draftLines_draftFields :
    draftLines products (draftFields draft now)
      = draft.lines.map fun line => Json.record (lineFields line) := rfl

theorem restoredMode_draftFields
    (hcontext : context = none ∨ context = some draft.orderingMode) :
    restoredMode (draftFields draft now) context = some draft.orderingMode := by
  have hversion : hasVersion (draftFields draft now) qrCartVersion = true := rfl
  have hmode : isQrCartOrderingMode ((draftFields draft now).field (ofAscii "orderingMode"))
      = some draft.orderingMode := ofName_name draft.orderingMode
  rw [restoredMode, hversion, if_pos rfl, hmode, Option.filter_some, if_pos]
  rcases hcontext with hnone | hsome
  · simp [hnone]
  · simp [hsome]

theorem acceptedDraft_serialize (hsaved : now ≤ later) (hlives : later - now ≤ qrCartTtlMs)
    (hcontext : context = none ∨ context = some draft.orderingMode) :
    acceptedDraft (some (serializeQrCartDraft draft now)) later context
      = some (draftFields draft now, draft.orderingMode) := by
  have hnumber : (draftFields draft now).number? (ofAscii "savedAt") = some (now : ℚ) := rfl
  have htime : (later : ℚ) - (now : ℚ) ≤ (qrCartTtlMs : ℚ) ∧ (now : ℚ) ≤ (later : ℚ) := by
    exact_mod_cast And.intro hlives hsaved
  simp only [acceptedDraft, serializeQrCartDraft, Json.asRecord, Option.bind_eq_bind,
    Option.bind_some, hnumber, guard, if_pos htime, restoredMode_draftFields hcontext]
  rfl

/-- A saved cart that can be stored comes back unchanged while its draft lives. -/
theorem restoredCart_serialize (hformed : WellFormed limits draft.lines)
    (hstorable : AllStorable limits draft.lines)
    (hcatalog : ∀ line ∈ draft.lines, InCatalog products line)
    (hsaved : now ≤ later) (hlives : later - now ≤ qrCartTtlMs)
    (hcontext : context = none ∨ context = some draft.orderingMode) :
    restoredCart integerOf products limits (some (serializeQrCartDraft draft now)) later context
      = draft.lines := by
  have hlines : (restoreLines integerOf products limits 0
      (draft.lines.map fun line => Json.record (lineFields line))
      { lines := [], usedIds := [] }).lines = draft.lines :=
    restoreLines_lines hformed hstorable hcatalog
  simp only [restoredCart, restoreQrCartDraft,
    acceptedDraft_serialize hsaved hlives hcontext, Option.bind_eq_bind,
    Option.bind_some, guard, draftLines_draftFields, hlines]
  by_cases hcontent :
    hasContent (restoredDraft limits (draftFields draft now) draft.orderingMode draft.lines) = true
  · rw [if_pos hcontent]
    rfl
  · -- a draft with nothing in it is not restored
    have hempty : draft.lines = [] := by
      by_contra hlines
      exact hcontent (by simp [hasContent, restoredDraft, hlines])
    rw [if_neg hcontent, hempty]
    rfl

end DraftFields

end Stallorder.QrCart
