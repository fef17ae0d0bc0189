import Stallorder.Cart.DraftRestore

/-!
# Carts over a visit

A visit starts from the empty cart or from a draft and edits the cart one
command after another; a refused edit leaves the cart as it is.  The cart stays
well formed as long as no draft makes two lines share an id, and it comes back
from its own draft as long as it takes over only what a draft keeps.
-/

namespace Stallorder.QrCart

open CodeUnits Run

variable (integerOf : Json → Option ℤ) (limits : QrCartLimits)

inductive CartCommand
  | restore (raw : Option Json) (products : List CatalogProduct) (now : ℤ)
      (context : Option QrCartOrderingMode)
  | add (input : QrCartLineInput) (createId : CodeUnits)
  | update (lineId : CodeUnits) (quantity : ℤ)
  | replace (lineId : CodeUnits) (input : QrCartLineInput)

def cartStep (lines : List QrCartLine) : CartCommand → List QrCartLine
  | .restore raw products now context => restoredCart integerOf products limits raw now context
  | .add input createId => (addQrCartLine lines input limits createId).getD lines
  | .update lineId quantity => (updateQrCartLineQuantity lines lineId quantity limits).getD lines
  | .replace lineId input => (replaceQrCartLine lines lineId input limits).getD lines

/-- Every line that an accepted draft opens meets a condition. -/
def DraftOpens (condition : ℕ → JsonFields → RestoreState → QrCartLine → Prop)
    (raw : Option Json) (products : List CatalogProduct) (now : ℤ)
    (context : Option QrCartOrderingMode) : Prop :=
  ∀ parsed orderingMode, acceptedDraft raw now context = some (parsed, orderingMode) →
    AllOpened integerOf products limits condition 0 (draftLines products parsed)
      { lines := [], usedIds := [] }

/-- The own ids of an accepted draft stay apart. -/
def DraftIdsApart (raw : Option Json) (products : List CatalogProduct) (now : ℤ)
    (context : Option QrCartOrderingMode) : Prop :=
  ∀ parsed orderingMode, acceptedDraft raw now context = some (parsed, orderingMode) →
    OwnIdsApart [] (openedIds integerOf products limits 0 (draftLines products parsed)
      { lines := [], usedIds := [] })

/-- New lines get ids that no line has. -/
def KeepsLinesApart (lines : List QrCartLine) : CartCommand → Prop
  | .restore raw products now context =>
      DraftIdsApart integerOf limits raw products now context
  | .add _ createId => createId ∉ lines.map fun line => line.id
  | .update _ _ | .replace _ _ => True

/-- Lines are taken over with ids, notes and options that a draft keeps. -/
def TakesStorableLines (lines : List QrCartLine) : CartCommand → Prop
  | .restore raw products now context =>
      DraftOpens integerOf limits opensTrimmed raw products now context
  | .add input createId =>
      (∀ line ∈ lines, line.key ≠ qrCartLineKey input) →
        Trimmed createId ∧ Storable limits input
  | .update _ _ => True
  | .replace _ input => Storable limits input

/-- The cart comes back from its draft while the draft lives and the catalog still has
its options. -/
def ReturnsFromDraft (lines : List QrCartLine) : Prop :=
  ∀ (draft : QrCartDraft) (products : List CatalogProduct) (now later : ℤ)
    (context : Option QrCartOrderingMode),
    draft.lines = lines → (∀ line ∈ lines, InCatalog products line) →
    now ≤ later → later - now ≤ qrCartTtlMs →
    (context = none ∨ context = some draft.orderingMode) →
    restoredCart integerOf products limits (some (serializeQrCartDraft draft now)) later context
      = lines

variable {integerOf : Json → Option ℤ} {limits : QrCartLimits}

section Steps

variable {lines : List QrCartLine} {products : List CatalogProduct} {raw : Option Json}
  {now : ℤ} {context : Option QrCartOrderingMode}

variable (integerOf limits raw products now context) in
/-- A restored cart is empty or what the loop over an accepted draft took over. -/
theorem restoredCart_eq :
    restoredCart integerOf products limits raw now context = []
      ∨ ∃ parsed orderingMode, acceptedDraft raw now context = some (parsed, orderingMode)
        ∧ restoredCart integerOf products limits raw now context
          = (restoreLines integerOf products limits 0 (draftLines products parsed)
            { lines := [], usedIds := [] }).lines := by
  unfold restoredCart restoreQrCartDraft
  rcases haccepted : acceptedDraft raw now context with _ | ⟨parsed, orderingMode⟩
  · exact .inl rfl
  · simp only [Option.bind_eq_bind, Option.bind_some, guard]
    split
    · exact .inr ⟨parsed, orderingMode, rfl, rfl⟩
    · exact .inl rfl

theorem wellFormed_restoredCart
    (hapart : DraftIdsApart integerOf limits raw products now context) :
    WellFormed limits (restoredCart integerOf products limits raw now context) := by
  rcases restoredCart_eq integerOf limits products raw now context with
    hempty | ⟨parsed, mode, haccepted, heq⟩
  · rw [hempty]
    exact wellFormed_nil
  · rw [heq]
    exact (restoreLines_restored (allOpened_iff_ownIdsApart.mpr
      (hapart parsed mode haccepted))).wellFormed

theorem storable_restoredCart
    (hopens : DraftOpens integerOf limits opensTrimmed raw products now context) :
    AllStorable limits (restoredCart integerOf products limits raw now context) := by
  rcases restoredCart_eq integerOf limits products raw now context with
    hempty | ⟨parsed, mode, haccepted, heq⟩
  · rw [hempty]
    intro line hmem
    cases hmem
  · rw [heq]
    exact restoreLines_storable (hopens parsed mode haccepted)

theorem storable_add {added : List QrCartLine} {input : QrCartLineInput} {createId : CodeUnits}
    (hstorable : AllStorable limits lines)
    (hinput : (∀ line ∈ lines, line.key ≠ qrCartLineKey input) →
      Trimmed createId ∧ Storable limits input)
    (hadd : addQrCartLine lines input limits createId = some added) :
    AllStorable limits added := by
  unfold addQrCartLine at hadd
  split at hadd
  · cases hadd
  split at hadd
  · cases hadd
  split at hadd
  · cases hadd
  split at hadd
  · next index hfound =>
      cases hadd
      exact allStorable_modify hstorable index input.quantity
  · next hfound =>
      split at hadd
      · cases hadd
      split at hadd
      · cases hadd
      · cases hadd
        have hnew := key_fresh_of_findIdx hfound
        obtain ⟨htrimmed, hline⟩ := hinput fun line hmem hkey =>
          hnew (List.mem_map.mpr ⟨line, hmem, hkey⟩)
        exact allStorable_append hstorable htrimmed hline

theorem storable_update {updated : List QrCartLine} {lineId : CodeUnits} {quantity : ℤ}
    (hstorable : AllStorable limits lines)
    (hupdate : updateQrCartLineQuantity lines lineId quantity limits = some updated) :
    AllStorable limits updated := by
  unfold updateQrCartLineQuantity at hupdate
  split at hupdate
  · cases hupdate
  · simp only at hupdate
    split at hupdate
    · cases hupdate
      exact fun line hmem => hstorable line (List.mem_of_mem_filter hmem)
    split at hupdate
    · cases hupdate
    split at hupdate
    · cases hupdate
    · cases hupdate
      intro line hmem
      obtain ⟨old, hold, rfl⟩ := List.mem_map.mp hmem
      obtain ⟨htrimmed, hline⟩ := hstorable old hold
      split
      · exact ⟨htrimmed, hline.shortNote, hline.distinctNoteOptions, hline.distinctBundleChoices⟩
      · exact ⟨htrimmed, hline⟩

theorem storable_replace {replaced : List QrCartLine} {lineId : CodeUnits}
    {input : QrCartLineInput} (hstorable : AllStorable limits lines)
    (hinput : Storable limits input)
    (hreplace : replaceQrCartLine lines lineId input limits = some replaced) :
    AllStorable limits replaced := by
  unfold replaceQrCartLine at hreplace
  split at hreplace
  · cases hreplace
  · next current hfound =>
      simp only at hreplace
      split at hreplace
      · cases hreplace
      split at hreplace
      · cases hreplace
      split at hreplace
      · cases hreplace
      split at hreplace
      · cases hreplace
      · cases hreplace
        have hid : current.id = lineId := by simpa using List.find?_some hfound
        intro line hmem
        obtain ⟨old, hold, rfl⟩ := List.mem_map.mp hmem
        obtain ⟨htrimmed, hline⟩ := hstorable old (List.mem_of_mem_filter hold)
        split
        · refine ⟨?_, hinput.shortNote, hinput.distinctNoteOptions,
            hinput.distinctBundleChoices⟩
          change Trimmed lineId
          rw [← hid]
          exact (hstorable current (List.mem_of_find?_eq_some hfound)).1
        · exact ⟨htrimmed, hline⟩

/-- What the cart has and every accepted edit keeps, the cart has after the edit. -/
theorem edited_keeps {Property : List QrCartLine → Prop} {edited : Option (List QrCartLine)}
    (hcart : Property lines) (hedit : ∀ result, edited = some result → Property result) :
    Property (edited.getD lines) := by
  cases edited with
  | none => exact hcart
  | some result => exact hedit result rfl

theorem wellFormed_cartStep (hformed : WellFormed limits lines) {command : CartCommand}
    (hkeeps : KeepsLinesApart integerOf limits lines command) :
    WellFormed limits (cartStep integerOf limits lines command) := by
  cases command with
  | restore raw products now context => exact wellFormed_restoredCart hkeeps
  | add input createId =>
      exact edited_keeps hformed fun _ hadd => wellFormed_add hformed hkeeps hadd
  | update lineId quantity =>
      exact edited_keeps hformed fun _ hupdate => wellFormed_update hformed hupdate
  | replace lineId input =>
      exact edited_keeps hformed fun _ hreplace => wellFormed_replace hformed hreplace

theorem storable_cartStep (hstorable : AllStorable limits lines) {command : CartCommand}
    (htakes : TakesStorableLines integerOf limits lines command) :
    AllStorable limits (cartStep integerOf limits lines command) := by
  cases command with
  | restore raw products now context => exact storable_restoredCart htakes
  | add input createId =>
      exact edited_keeps hstorable fun _ hadd => storable_add hstorable htakes hadd
  | update lineId quantity =>
      exact edited_keeps hstorable fun _ hupdate => storable_update hstorable hupdate
  | replace lineId input =>
      exact edited_keeps hstorable fun _ hreplace => storable_replace hstorable htakes hreplace

end Steps

/-! ## The whole visit -/

/-- A visit whose drafts keep the ids of their lines apart has a well-formed cart, and when
it also takes over only what a draft keeps, its cart comes back from its draft. -/
theorem cart_kept {commands : List CartCommand}
    (happart : Safely (cartStep integerOf limits) (KeepsLinesApart integerOf limits) []
      commands) :
    WellFormed limits (exec (cartStep integerOf limits) [] commands)
      ∧ (Safely (cartStep integerOf limits) (TakesStorableLines integerOf limits) [] commands →
        ReturnsFromDraft integerOf limits (exec (cartStep integerOf limits) [] commands)) := by
  have hformed : WellFormed limits (exec (cartStep integerOf limits) [] commands) :=
    invariant_of_safely (WellFormed limits)
      (fun _ _ hformed hkeeps => wellFormed_cartStep hformed hkeeps) wellFormed_nil happart
  refine ⟨hformed, fun htakes => ?_⟩
  have hstorable : AllStorable limits (exec (cartStep integerOf limits) [] commands) :=
    invariant_of_safely (AllStorable limits)
      (fun _ _ hstorable hline => storable_cartStep hstorable hline)
      (fun line hmem => by cases hmem) htakes
  intro draft products now later context hlines hcatalog hsaved hlives hcontext
  rw [← hlines] at hformed hstorable hcatalog ⊢
  exact restoredCart_serialize hformed hstorable hcatalog hsaved hlives hcontext

/-! ### Sample visits -/

def sampleProducts : List CatalogProduct := [{
  id := ofAscii "tea"
  noteGroups := [[ofAscii "hot", ofAscii "warm", ofAscii "cold"]]
  bundleChoiceGroups := [] }]

def sampleLimits : QrCartLimits where
  maxItemQuantity := 10
  maxUniqueProducts := 10
  maxTotalQuantity := 10
  maxNoteLength := 100

def sampleLine (id option : String) : QrCartLine where
  id := ofAscii id
  productId := ofAscii "tea"
  quantity := 1
  note := []
  noteOptionIds := [ofAscii option]
  bundleChoiceIds := []

def sampleDraft (lines : List QrCartLine) : QrCartDraft where
  orderingMode := .default
  scheduledPickupAt := []
  customerName := []
  customerNote := []
  customerPhone := []
  deliveryAddress := []
  lines := lines

/-- The draft of a cart with two configurations of one product. -/
def twoLinesDraft : QrCartDraft := sampleDraft [sampleLine "a" "hot", sampleLine "b" "cold"]

theorem cart_kept_samples :
    WellFormed sampleLimits (exec (cartStep (fun _ => none) sampleLimits) []
        [.restore (some (serializeQrCartDraft twoLinesDraft 0)) sampleProducts 5 none,
          .update (ofAscii "b") 3])
      ∧ ReturnsFromDraft (fun _ => none) sampleLimits
        (exec (cartStep (fun _ => none) sampleLimits) []
          [.add (sampleLine "a" "hot").toQrCartLineInput (ofAscii "a")]) := by
  have hrestored : Safely (cartStep (fun _ => none) sampleLimits)
      (KeepsLinesApart (fun _ => none) sampleLimits) []
      [.restore (some (serializeQrCartDraft twoLinesDraft 0)) sampleProducts 5 none,
        .update (ofAscii "b") 3] := by
    refine ⟨fun parsed orderingMode haccepted => ?_, trivial, trivial⟩
    rw [acceptedDraft_serialize (by decide) (by decide) (.inl rfl)] at haccepted
    cases haccepted
    exact restored_ids_nodup_iff.mp (by decide +kernel)
  have hadded : Safely (cartStep (fun _ => none) sampleLimits)
      (KeepsLinesApart (fun _ => none) sampleLimits) []
      [.add (sampleLine "a" "hot").toQrCartLineInput (ofAscii "a")] :=
    ⟨List.not_mem_nil, trivial⟩
  have htrimmed : Trimmed (ofAscii "a") := by
    refine ⟨by decide, fun unit hunit => ?_, fun unit hunit => ?_⟩
    · cases hunit
      decide
    · cases hunit
      decide
  have hstorable : Storable sampleLimits (sampleLine "a" "hot").toQrCartLineInput :=
    ⟨by decide, by decide +kernel, by decide +kernel⟩
  exact ⟨(cart_kept hrestored).1, (cart_kept hadded).2 ⟨fun _ => ⟨htrimmed, hstorable⟩, trivial⟩⟩

/-- The third line repeats the id of the first and is renamed to the id of the second. -/
def tamperedDraft : Json :=
  serializeQrCartDraft
    (sampleDraft [sampleLine "a" "hot", sampleLine "a:2" "warm", sampleLine "a" "cold"]) 0

theorem tampered_draft_repeats_id :
    (restoredCart (fun _ => none) sampleProducts sampleLimits (some tamperedDraft) 0 none).map
        (fun line => line.id)
      = [ofAscii "a", ofAscii "a:2", ofAscii "a:2"] := by
  decide +kernel

/-- Every added line gets an id that no line has. -/
def AddsFreshIds (lines : List QrCartLine) : CartCommand → Prop
  | .add _ createId => createId ∉ lines.map fun line => line.id
  | .restore _ _ _ _ | .update _ _ | .replace _ _ => True

/-- Fresh ids are not enough for a well-formed cart. -/
theorem restored_cart_not_wellFormed :
    ¬∀ (integerOf : Json → Option ℤ) (limits : QrCartLimits) (commands : List CartCommand),
      Safely (cartStep integerOf limits) AddsFreshIds [] commands →
        WellFormed limits (exec (cartStep integerOf limits) [] commands) := by
  intro hall
  have hformed := hall (fun _ => none) sampleLimits
    [.restore (some tamperedDraft) sampleProducts 0 none] ⟨trivial, trivial⟩
  have hids := hformed.distinctIds
  rw [exec_cons, exec_nil, cartStep, tampered_draft_repeats_id] at hids
  exact absurd hids (by decide +kernel)

end Stallorder.QrCart
