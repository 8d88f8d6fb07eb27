import CheckedSelect.Json.ReadError
import CheckedSelect.Text.Digits

/-!
# CheckedSelect.Json.Quoted

Strings in documents. Written, a quote, a backslash and the characters below space are escaped
and nothing else. Read, every escape is understood, and a character beyond the basic plane may be
given as a surrogate pair.

* `quoted` - a string with its quotes;
* `stringBody` - the characters up to the closing quote, and the text after it;
* `skipString` - the text after the closing quote; escapes must have the right form, but the code
  units they name need not pair up.
-/

namespace CheckedSelect.Json

/-! ## Writing -/

def escapeChar (c : Char) : List Char :=
  match c with
  | '"' => ['\\', '"']
  | '\\' => ['\\', '\\']
  | '\x08' => ['\\', 'b']
  | '\x0c' => ['\\', 'f']
  | '\n' => ['\\', 'n']
  | '\r' => ['\\', 'r']
  | '\t' => ['\\', 't']
  | c => if c < ' ' then '\\' :: 'u' :: Text.padded 16 4 c.toNat else [c]

def quoted (text : List Char) : List Char :=
  '"' :: text.flatMap escapeChar ++ ['"']

/-! ## Reading -/

/-- The escapes of one character after the backslash. -/
def shortEscape? : Char → Option Char
  | '"' => some '"'
  | '\\' => some '\\'
  | '/' => some '/'
  | 'b' => some '\x08'
  | 'f' => some '\x0c'
  | 'n' => some '\n'
  | 'r' => some '\r'
  | 't' => some '\t'
  | _ => none

def byteLength (text : List Char) : Nat := text.foldr (fun c bytes => c.utf8Size + bytes) 0

/-- Four hexadecimal digits. A text with fewer than four bytes left is cut off, whatever those
bytes are. -/
def hexUnit : List Char → Except ReadError (Nat × List Char)
  | a :: b :: c :: d :: rest =>
    match Text.hex? [a, b, c, d] with
    | some n => .ok (n, rest)
    | none => .error .malformed
  | text => .error (if byteLength text < 4 then .truncated else .malformed)

def isLeadingSurrogate (n : Nat) : Bool := 0xD800 ≤ n && n ≤ 0xDBFF

def isTrailingSurrogate (n : Nat) : Bool := 0xDC00 ≤ n && n ≤ 0xDFFF

/-- The character that a surrogate pair stands for. -/
def pairedChar (leading trailing : Nat) : Char :=
  Char.ofNat (0x10000 + (leading - 0xD800) * 0x400 + (trailing - 0xDC00))

/-- What follows the leading half of a pair must be the escape of the trailing half. -/
def trailingUnit : List Char → Except ReadError (Nat × List Char)
  | [] => .error .truncated
  | [c] => .error (if c = '\\' then .truncated else .malformed)
  | c :: d :: rest =>
    if c = '\\' ∧ d = 'u' then
      match hexUnit rest with
      | .error e => .error e
      | .ok (n, after) => if isTrailingSurrogate n then .ok (n, after) else .error .malformed
    else .error .malformed

/-- The character named by four digits, or by eight when the first four are the leading half of a
pair. -/
def unicodeEscape (text : List Char) : Except ReadError (Char × List Char) :=
  match hexUnit text with
  | .error e => .error e
  | .ok (n, after) =>
    if isTrailingSurrogate n then .error .malformed
    else if isLeadingSurrogate n then
      match trailingUnit after with
      | .error e => .error e
      | .ok (m, after) => .ok (pairedChar n m, after)
    else .ok (Char.ofNat n, after)

/-- The character named by an escape, after its backslash. -/
def escape : List Char → Except ReadError (Char × List Char)
  | [] => .error .truncated
  | c :: rest =>
    if c = 'u' then unicodeEscape rest
    else
      match shortEscape? c with
      | some d => .ok (d, rest)
      | none => .error .malformed

/-- An escape that is only stepped over. -/
def skipEscape : List Char → Except ReadError (List Char)
  | [] => .error .truncated
  | c :: rest =>
    if c = 'u' then
      match hexUnit rest with
      | .error e => .error e
      | .ok (_, after) => .ok after
    else if (shortEscape? c).isSome then .ok rest
    else .error .malformed

theorem length_lt_of_hexUnit {text after : List Char} {n : Nat} (h : hexUnit text = .ok (n, after)) :
    after.length < text.length := by
  unfold hexUnit at h
  split at h
  · split at h
    · cases h
      simp only [List.length_cons]
      omega
    · cases h
  · cases h

theorem length_lt_of_trailingUnit {text after : List Char} {n : Nat}
    (h : trailingUnit text = .ok (n, after)) : after.length < text.length := by
  unfold trailingUnit at h
  split at h
  · cases h
  · cases h
  · split at h
    · split at h
      · cases h
      · next heq =>
        split at h
        · cases h
          have := length_lt_of_hexUnit heq
          simp only [List.length_cons]
          omega
        · cases h
    · cases h

theorem length_lt_of_unicodeEscape {text after : List Char} {c : Char}
    (h : unicodeEscape text = .ok (c, after)) : after.length < text.length := by
  unfold unicodeEscape at h
  split at h
  · cases h
  · next heq =>
    have hunit := length_lt_of_hexUnit heq
    split at h
    · cases h
    · split at h
      · split at h
        · cases h
        · next heq' =>
          simp only [Except.ok.injEq, Prod.mk.injEq] at h
          obtain ⟨-, rfl⟩ := h
          exact Nat.lt_trans (length_lt_of_trailingUnit heq') hunit
      · simp only [Except.ok.injEq, Prod.mk.injEq] at h
        obtain ⟨-, rfl⟩ := h
        exact hunit

theorem length_lt_of_escape {text after : List Char} {c : Char}
    (h : escape text = .ok (c, after)) : after.length < text.length := by
  unfold escape at h
  split at h
  · cases h
  · split at h
    · have := length_lt_of_unicodeEscape h
      simp only [List.length_cons]
      omega
    · split at h
      · cases h
        simp
      · cases h

theorem length_lt_of_skipEscape {text after : List Char} (h : skipEscape text = .ok after) :
    after.length < text.length := by
  unfold skipEscape at h
  split at h
  · cases h
  · split at h
    · split at h
      · cases h
      · next heq =>
        cases h
        have := length_lt_of_hexUnit heq
        simp only [List.length_cons]
        omega
    · split at h
      · cases h
        simp
      · cases h

def stringBody (text : List Char) : Except ReadError (List Char × List Char) :=
  match text with
  | [] => .error .truncated
  | c :: rest =>
    if c = '"' then .ok ([], rest)
    else if c = '\\' then
      match _h : escape rest with
      | .error e => .error e
      | .ok (d, after) =>
        match stringBody after with
        | .error e => .error e
        | .ok (body, after) => .ok (d :: body, after)
    else if c < ' ' then .error .malformed
    else
      match stringBody rest with
      | .error e => .error e
      | .ok (body, after) => .ok (c :: body, after)
termination_by text.length
decreasing_by
  · have := length_lt_of_escape _h
    simp only [List.length_cons]
    omega
  · simp

def skipString (text : List Char) : Except ReadError (List Char) :=
  match text with
  | [] => .error .truncated
  | c :: rest =>
    if c = '"' then .ok rest
    else if c = '\\' then
      match _h : skipEscape rest with
      | .error e => .error e
      | .ok after => skipString after
    else if c < ' ' then .error .malformed
    else skipString rest
termination_by text.length
decreasing_by
  · have := length_lt_of_skipEscape _h
    simp only [List.length_cons]
    omega
  · simp

end CheckedSelect.Json
