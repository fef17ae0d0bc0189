import Stallorder.Core.Schema

/-!
# Texts in the database

What the functions and check constraints of the database ask of a text: that it
is a hexadecimal digest, a code, or of a length after its blanks are trimmed.
-/

namespace Stallorder.SqlText

/-- Only blanks are trimmed. -/
def btrim (text : Text) : Text :=
  (text.dropWhile (· = ' ')).rdropWhile (· = ' ')

@[simp]
theorem btrim_btrim (text : Text) : btrim (btrim text) = btrim text := by
  conv_lhs => rw [btrim]
  have hstart : (btrim text).dropWhile (· = ' ') = btrim text := Text.dropWhile_stripped _ text
  rw [hstart]
  exact List.rdropWhile_idempotent _ _

def trimmedLength (text : Text) (least most : ℕ) : Bool :=
  least ≤ (btrim text).length && (btrim text).length ≤ most

theorem trimmedLength_btrim (text : Text) (least most : ℕ) :
    trimmedLength (btrim text) least most = trimmedLength text least most := by
  rw [trimmedLength, trimmedLength, btrim_btrim]

/-- The texts that match `^[0-9a-f]{64}$`. -/
def hexDigest (text : Text) : Bool :=
  text.length = 64 && text.all fun c => c.isDigit || ('a' ≤ c && c ≤ 'f')

/-- The texts that match `^[A-Z][A-Z0-9_]{least,most}$`. -/
def codeText (least most : ℕ) : Text → Bool
  | [] => false
  | head :: rest => head.isUpper && least ≤ rest.length && rest.length ≤ most
      && rest.all fun c => c.isUpper || c.isDigit || c = '_'

end Stallorder.SqlText
