import Stallorder.Core.Json

/-!
# The cart of a QR order

A cart is a list of lines with a quantity each.  Lines are added, changed and
replaced under the limits of the stall, and the cart is kept in the browser as
a draft that a later visit restores.  A restored draft is any document at all,
so restoration rebuilds the cart line by line from what the catalog still
allows.
-/

namespace Stallorder.QrCart

open CodeUnits

def qrCartTtlMs : ℤ := 24 * 60 * 60 * 1000

def qrCartVersion : ℚ := 3

def qrCartMaxLines : ℕ := 100

inductive QrCartOrderingMode
  | default
  | delivery
  | preorder
  deriving DecidableEq

namespace QrCartOrderingMode

def name : QrCartOrderingMode → CodeUnits
  | default => ofAscii "DEFAULT"
  | delivery => ofAscii "DELIVERY"
  | preorder => ofAscii "PREORDER"

/-- The mode a text names. -/
def ofName (text : CodeUnits) : Option QrCartOrderingMode :=
  [default, delivery, preorder].find? fun mode => mode.name = text

end QrCartOrderingMode

/-- A cart line without its id. -/
structure QrCartLineInput where
  productId : CodeUnits
  quantity : ℤ
  note : CodeUnits
  noteOptionIds : List CodeUnits
  bundleChoiceIds : List CodeUnits
  deriving DecidableEq

structure QrCartLine extends QrCartLineInput where
  id : CodeUnits
  deriving DecidableEq

/-- What is saved of a cart. -/
structure QrCartDraft where
  orderingMode : QrCartOrderingMode
  scheduledPickupAt : CodeUnits
  customerName : CodeUnits
  customerNote : CodeUnits
  customerPhone : CodeUnits
  deliveryAddress : CodeUnits
  lines : List QrCartLine

structure CatalogProduct where
  id : CodeUnits
  noteGroups : List (List CodeUnits)
  bundleChoiceGroups : List (List CodeUnits)

structure QrCartLimits where
  maxItemQuantity : ℕ
  maxUniqueProducts : ℕ
  maxTotalQuantity : ℕ
  maxNoteLength : ℕ

/-! ## Keys and quantities -/

/-- Lines with the same key are the same configuration of one product. -/
structure QrCartLineKey where
  productId : CodeUnits
  note : CodeUnits
  noteOptionIds : List CodeUnits
  bundleChoiceIds : List CodeUnits
  deriving DecidableEq

def qrCartLineKey (line : QrCartLineInput) : QrCartLineKey where
  productId := line.productId
  note := trim line.note
  noteOptionIds := line.noteOptionIds.insertionSort (· ≤ ·)
  bundleChoiceIds := line.bundleChoiceIds.insertionSort (· ≤ ·)

def qrCartTotalQuantity (lines : List QrCartLine) : ℤ :=
  (lines.map fun line => line.quantity).sum

def qrCartProductQuantity (lines : List QrCartLine) (productId : CodeUnits) : ℤ :=
  (lines.map fun line => if line.productId = productId then line.quantity else 0).sum

def distinctProducts (lines : List QrCartLine) : List CodeUnits :=
  (lines.map fun line => line.productId).dedup

/-- Another product is refused when as many products are already there. -/
def productRefused (limits : QrCartLimits) (lines : List QrCartLine) (productId : CodeUnits) :
    Prop :=
  productId ∉ distinctProducts lines
    ∧ limits.maxUniqueProducts ≤ (distinctProducts lines).length

instance (limits : QrCartLimits) (lines : List QrCartLine) (productId : CodeUnits) :
    Decidable (productRefused limits lines productId) :=
  inferInstanceAs (Decidable (_ ∧ _))

/-! ## Editing -/

def addQrCartLine (lines : List QrCartLine) (input : QrCartLineInput) (limits : QrCartLimits)
    (createId : CodeUnits) : Option (List QrCartLine) :=
  if input.quantity < 1 then none
  else if limits.maxItemQuantity
      < qrCartProductQuantity lines input.productId + input.quantity then none
  else if limits.maxTotalQuantity < qrCartTotalQuantity lines + input.quantity then none
  else match lines.findIdx? fun line =>
      qrCartLineKey line.toQrCartLineInput = qrCartLineKey input with
  | some existingIndex =>
      some (lines.modify existingIndex fun line =>
        { line with quantity := line.quantity + input.quantity })
  | none =>
      if productRefused limits lines input.productId then none
      else if qrCartMaxLines ≤ lines.length then none
      else some (lines ++ [{ input with id := createId }])

def updateQrCartLineQuantity (lines : List QrCartLine) (lineId : CodeUnits) (quantity : ℤ)
    (limits : QrCartLimits) : Option (List QrCartLine) :=
  match lines.find? fun line => line.id = lineId with
  | none => none
  | some current =>
      let otherLines := lines.filter fun line => line.id ≠ lineId
      if quantity ≤ 0 then some otherLines
      else if limits.maxItemQuantity
          < qrCartProductQuantity otherLines current.productId + quantity then none
      else if limits.maxTotalQuantity < qrCartTotalQuantity otherLines + quantity then none
      else some (lines.map fun line =>
        if line.id = lineId then { line with quantity } else line)

def replaceQrCartLine (lines : List QrCartLine) (lineId : CodeUnits) (input : QrCartLineInput)
    (limits : QrCartLimits) : Option (List QrCartLine) :=
  match lines.find? fun line => line.id = lineId with
  | none => none
  | some _ =>
      let otherLines := lines.filter fun line => line.id ≠ lineId
      if input.quantity < 1 then none
      else if limits.maxItemQuantity
          < qrCartProductQuantity otherLines input.productId + input.quantity then none
      else if limits.maxTotalQuantity
          < qrCartTotalQuantity otherLines + input.quantity then none
      else if productRefused limits otherLines input.productId then none
      else
        let duplicate := otherLines.find? fun line =>
          qrCartLineKey line.toQrCartLineInput = qrCartLineKey input
        let replacement : QrCartLine := {
          input with
          id := lineId
          quantity := input.quantity + (duplicate.map (·.quantity)).getD 0 }
        some ((lines.filter fun line => some line.id ≠ duplicate.map (·.id)).map fun line =>
          if line.id = lineId then replacement else line)

/-! ## Drafts -/

def lineFields (line : QrCartLine) : JsonFields := [
  (ofAscii "id", .text line.id),
  (ofAscii "productId", .text line.productId),
  (ofAscii "quantity", .number (some line.quantity)),
  (ofAscii "note", .text line.note),
  (ofAscii "noteOptionIds", .array (line.noteOptionIds.map .text)),
  (ofAscii "bundleChoiceIds", .array (line.bundleChoiceIds.map .text))]

def draftFields (draft : QrCartDraft) (now : ℤ) : JsonFields := [
  (ofAscii "orderingMode", .text draft.orderingMode.name),
  (ofAscii "scheduledPickupAt", .text draft.scheduledPickupAt),
  (ofAscii "customerName", .text draft.customerName),
  (ofAscii "customerNote", .text draft.customerNote),
  (ofAscii "customerPhone", .text draft.customerPhone),
  (ofAscii "deliveryAddress", .text draft.deliveryAddress),
  (ofAscii "lines", .array (draft.lines.map fun line => .record (lineFields line))),
  (ofAscii "version", .number (some qrCartVersion)),
  (ofAscii "savedAt", .number (some now))]

/-- What the text of a saved draft parses to. -/
def serializeQrCartDraft (draft : QrCartDraft) (now : ℤ) : Json :=
  .record (draftFields draft now)

def isQrCartOrderingMode (value : Option Json) : Option QrCartOrderingMode :=
  (value.bind Json.asText).bind QrCartOrderingMode.ofName

def hasVersion (parsed : JsonFields) (version : ℚ) : Bool :=
  parsed.number? (ofAscii "version") = some version

/-- A list without repetitions, in the order of the first occurrences. -/
def firstOccurrences (ids : List CodeUnits) : List CodeUnits :=
  ids.reverse.dedup.reverse

def sanitizedIds (value : Option Json) (allowed : List CodeUnits) : List CodeUnits :=
  match value.bind Json.asArray with
  | some entries =>
      firstOccurrences ((entries.filterMap Json.asText).filter fun entry => entry ∈ allowed)
  | none => []

/-- The lines of a draft from before carts had lines. -/
def legacyLines (parsed : JsonFields) (products : List CatalogProduct) : List Json :=
  let quantities := parsed.record? (ofAscii "quantities")
  let noteSelections := parsed.record? (ofAscii "noteSelections")
  let bundleSelections := parsed.record? (ofAscii "bundleSelections")
  products.map fun product =>
    .record ([
      (ofAscii "id", .text (ofAscii "legacy:" ++ product.id)),
      (ofAscii "productId", .text product.id),
      (ofAscii "note", .text [])]
      ++ ((quantities.field product.id).map fun value => (ofAscii "quantity", value)).toList
      ++ ((noteSelections.field product.id).map fun value =>
        (ofAscii "noteOptionIds", value)).toList
      ++ ((bundleSelections.field product.id).map fun value =>
        (ofAscii "bundleChoiceIds", value)).toList)

/-- The product with an id: of several the last. -/
def productById (products : List CatalogProduct) (productId : CodeUnits) :
    Option CatalogProduct :=
  products.reverse.find? fun product => product.id = productId

section Restore

/- The integer that the language makes of a text or an array used as a number, if it
makes one. -/
variable (integerOf : Json → Option ℤ)

/-- The value of `Number` when it is an integer. -/
def requestedQuantity : Option Json → Option ℤ
  | none | some (.record _) | some (.number none) => none
  | some .null => some 0
  | some (.bool value) => some value.toInt
  | some (.number (some value)) => if value.den = 1 then some value.num else none
  | some value => integerOf value

/-- The lines taken over so far and the ids they have. -/
structure RestoreState where
  lines : List QrCartLine
  usedIds : List CodeUnits

variable (products : List CatalogProduct) (limits : QrCartLimits)

def preferredId (index : ℕ) (rawLine : JsonFields) (productId : CodeUnits) : CodeUnits :=
  match (rawLine.text? (ofAscii "id")).map trim with
  | some id =>
      if id = [] then ofAscii "restored:" ++ ofNat index ++ ofAscii ":" ++ productId else id
  | none => ofAscii "restored:" ++ ofNat index ++ ofAscii ":" ++ productId

def renamedId (usedIds : List CodeUnits) (index : ℕ) (preferred : CodeUnits) : CodeUnits :=
  if preferred ∈ usedIds then preferred ++ (ofAscii ":" ++ ofNat index) else preferred

/-- What one line of a draft restores to, before its configuration is compared with the
lines already there. -/
def nextLine (index : ℕ) (rawLine : JsonFields) (state : RestoreState) : Option QrCartLine := do
  let productId := (rawLine.text? (ofAscii "productId")).getD []
  let product ← productById products productId
  let requested ← requestedQuantity integerOf (rawLine.field (ofAscii "quantity"))
  let productRemaining := limits.maxItemQuantity - qrCartProductQuantity state.lines productId
  let totalRemaining := limits.maxTotalQuantity - qrCartTotalQuantity state.lines
  let quantity := min requested (min productRemaining totalRemaining)
  guard (0 < requested ∧ 0 < quantity ∧ ¬productRefused limits state.lines productId)
  return {
    id := renamedId state.usedIds index (preferredId index rawLine productId)
    productId
    quantity
    note := ((rawLine.text? (ofAscii "note")).getD []).take limits.maxNoteLength
    noteOptionIds :=
      sanitizedIds (rawLine.field (ofAscii "noteOptionIds")) product.noteGroups.flatten
    bundleChoiceIds :=
      sanitizedIds (rawLine.field (ofAscii "bundleChoiceIds"))
        product.bundleChoiceGroups.flatten }

/-- Where a line with the same configuration stands. -/
def sameConfiguration (lines : List QrCartLine) (line : QrCartLine) : Option ℕ :=
  lines.findIdx? fun other =>
    qrCartLineKey other.toQrCartLineInput = qrCartLineKey line.toQrCartLineInput

def placeLine (state : RestoreState) (line : QrCartLine) : RestoreState :=
  match sameConfiguration state.lines line with
  | some existingIndex =>
      { state with
        lines := state.lines.modify existingIndex fun existing =>
          { existing with quantity := existing.quantity + line.quantity } }
  | none => { lines := state.lines ++ [line], usedIds := state.usedIds ++ [line.id] }

/-- The loop over the lines of a draft, from the line at `index`. -/
def restoreLines : ℕ → List Json → RestoreState → RestoreState
  | _, [], state => state
  | index, rawLine :: rawLines, state =>
      if qrCartMaxLines ≤ state.lines.length then state
      else match rawLine.asRecord with
      | none => state
      | some fields =>
          match nextLine integerOf products limits index fields state with
          | none => restoreLines (index + 1) rawLines state
          | some line => restoreLines (index + 1) rawLines (placeLine state line)

/-- The lines of a parsed draft, whatever its version. -/
def draftLines (parsed : JsonFields) : List Json :=
  if hasVersion parsed qrCartVersion || hasVersion parsed 2 then
    (parsed.array? (ofAscii "lines")).getD (legacyLines parsed products)
  else legacyLines parsed products

/-- The mode under which a parsed draft is restored, if it is. -/
def restoredMode (parsed : JsonFields) (context : Option QrCartOrderingMode) :
    Option QrCartOrderingMode :=
  if hasVersion parsed qrCartVersion then
    (isQrCartOrderingMode (parsed.field (ofAscii "orderingMode"))).filter fun mode =>
      context = none || context = some mode
  else some (context.getD .default)

def restoredScheduledPickupAt (parsed : JsonFields) (orderingMode : QrCartOrderingMode) :
    CodeUnits :=
  if orderingMode ≠ .default ∧ hasVersion parsed qrCartVersion then
    ((parsed.text? (ofAscii "scheduledPickupAt")).getD []).take 64
  else []

/-- What is taken over of a parsed draft besides its lines. -/
def restoredDraft (parsed : JsonFields) (orderingMode : QrCartOrderingMode)
    (lines : List QrCartLine) : QrCartDraft where
  orderingMode := orderingMode
  scheduledPickupAt := restoredScheduledPickupAt parsed orderingMode
  customerName := ((parsed.text? (ofAscii "customerName")).getD []).take 50
  customerNote := ((parsed.text? (ofAscii "customerNote")).getD []).take limits.maxNoteLength
  customerPhone := ((parsed.text? (ofAscii "customerPhone")).getD []).take 30
  deliveryAddress := ((parsed.text? (ofAscii "deliveryAddress")).getD []).take 300
  lines := lines

def hasContent (draft : QrCartDraft) : Bool :=
  draft.lines ≠ [] || draft.customerName ≠ [] || draft.customerNote ≠ []
    || draft.customerPhone ≠ [] || draft.deliveryAddress ≠ []
    || (draft.orderingMode ≠ .default && draft.scheduledPickupAt ≠ [])

/-- The fields of a draft that is not too old and was saved in a mode that fits.  A draft
is given as what its text parses to; a missing text and one that does not parse give none. -/
def acceptedDraft (raw : Option Json) (now : ℤ) (context : Option QrCartOrderingMode) :
    Option (JsonFields × QrCartOrderingMode) := do
  let document ← raw
  let parsed : JsonFields ← document.asRecord
  let savedAt ← parsed.number? (ofAscii "savedAt")
  guard (now - savedAt ≤ qrCartTtlMs ∧ savedAt ≤ now)
  let orderingMode ← restoredMode parsed context
  return (parsed, orderingMode)

def restoreQrCartDraft (raw : Option Json) (now : ℤ) (context : Option QrCartOrderingMode) :
    Option QrCartDraft := do
  let (parsed, orderingMode) ← acceptedDraft raw now context
  let restored := restoreLines integerOf products limits 0 (draftLines products parsed)
    { lines := [], usedIds := [] }
  let draft := restoredDraft limits parsed orderingMode restored.lines
  guard (hasContent draft)
  return draft

/-- The cart that a visit starts with. -/
def restoredCart (raw : Option Json) (now : ℤ) (context : Option QrCartOrderingMode) :
    List QrCartLine :=
  ((restoreQrCartDraft integerOf products limits raw now context).map (·.lines)).getD []

end Restore

end Stallorder.QrCart
