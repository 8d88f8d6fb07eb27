import CheckedSelect.Json.Quoted

/-!
# CheckedSelect.Json.Reader

Readers take what they need off the front of a text, in one pass: the first problem met in reading
order is the one reported.

* `Reader α` - from a text to a value and the text after it, or an error;
* `start`, `advance`, `mark`, `word` - the pieces that all readers are made of;
* `members`, `elements` - what stands between the brackets of an object and of an array;
* `Reader.parse` - a whole text, with nothing but blanks after the value.
-/

namespace CheckedSelect.Json

abbrev Reader (α : Type) : Type := StateT (List Char) (Except ReadError) α

/-- The four characters that may stand between the tokens of a document. -/
def isSpace (c : Char) : Bool := c = ' ' || c = '\n' || c = '\t' || c = '\r'

/-- The next character that is no space. It is looked at and not taken. -/
def start : Reader Char := fun text =>
  match text.dropWhile isSpace with
  | [] => .error .truncated
  | c :: rest => .ok (c, c :: rest)

def advance : Reader Unit := modify List.tail

def malformed {α : Type} : Reader α := throw .malformed

def mismatch {α : Type} (cause : Mismatch) : Reader α := throw (.mismatch cause)

/-- Exactly these characters. -/
def word : List Char → Reader Unit
  | [] => pure ()
  | c :: cs => fun text =>
    match text with
    | [] => .error .truncated
    | d :: rest => if d = c then word cs rest else .error .malformed

/-- The rest of a string whose opening quote has been taken. -/
def stringRest : Reader String := fun text =>
  match stringBody text with
  | .error e => .error e
  | .ok (body, after) => .ok (String.ofList body, after)

def skipStringRest : Reader Unit := fun text =>
  match skipString text with
  | .error e => .error e
  | .ok after => .ok ((), after)

/-- One character, after any spaces. -/
def mark (expected : Char) : Reader Unit := do
  let c ← start
  if c = expected then advance else malformed

def colon : Reader Unit := mark ':'

/-- The text that is left bounds the number of rounds of a loop that takes a character in each. -/
def bounded {α : Type} (loop : Nat → Reader α) : Reader α := fun text =>
  loop (text.length + 1) text

/-! ## Objects -/

/-- Up to the name of the next member, its opening quote taken, or past the closing brace. -/
def nextMember (first : Bool) : Reader Bool := do
  let c ← start
  if c = '}' then
    advance
    return false
  else if first then
    mark '"'
    return true
  else if c = ',' then
    advance
    mark '"'
    return true
  else malformed

def membersLoop {κ σ : Type} (name : Reader κ) (member : σ → κ → Reader σ) :
    Nat → Bool → σ → Reader σ
  | 0, _, _ => throw .truncated
  | rounds + 1, first, done => do
    let more ← nextMember first
    if more then
      let n ← name
      let done ← member done n
      membersLoop name member rounds false done
    else return done

/-- The members of an object whose opening brace has been taken. `member` is handed each name and
reads the colon and the value. -/
def members {κ σ : Type} (name : Reader κ) (member : σ → κ → Reader σ) (init : σ) : Reader σ :=
  bounded fun rounds => membersLoop name member rounds true init

/-! ## Arrays -/

/-- Up to the next element, or to the closing bracket, which is not taken. -/
def nextElement (first : Bool) : Reader Bool := do
  let c ← start
  if c = ']' then return false
  else if first then return true
  else if c = ',' then
    advance
    let c ← start
    if c = ']' then malformed else return true
  else malformed

/-- After the last element that is wanted there is only the closing bracket: a comma there is
wrong, whatever follows it. -/
def closeArray : Reader Unit := mark ']'

def elementsLoop {σ : Type} (element : σ → Reader σ) : Nat → Bool → σ → Reader σ
  | 0, _, _ => throw .truncated
  | rounds + 1, first, done => do
    let more ← nextElement first
    if more then
      let done ← element done
      elementsLoop element rounds false done
    else
      closeArray
      return done

/-- The elements of an array whose opening bracket has been taken. -/
def elements {σ : Type} (element : σ → Reader σ) (init : σ) : Reader σ :=
  bounded fun rounds => elementsLoop element rounds true init

/-! ## Whole texts -/

def Reader.parse {α : Type} (reader : Reader α) (text : String) : Except ReadError α :=
  match reader text.toList with
  | .error e => .error e
  | .ok (a, rest) => if (rest.dropWhile isSpace).isEmpty then .ok a else .error .malformed

end CheckedSelect.Json
