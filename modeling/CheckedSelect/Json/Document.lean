import CheckedSelect.Floating.Format
import CheckedSelect.NameMap

/-!
# CheckedSelect.Json.Document

Documents. Whole numbers and floats are kept apart; the members of an object are held in
ascending order of their names, each name once.

* `Json.agrees` - equality of documents, floats compared as numbers;
* `Json.WellFormed` - whole numbers within 64 bits, finite floats, ordered objects.
-/

namespace CheckedSelect

inductive Json where
  | null
  | bool (b : Bool)
  | int (n : Int)
  | float (x : Binary64)
  | string (s : String)
  | array (items : List Json)
  | object (members : List (String × Json))
  deriving Repr, Inhabited

namespace Json

mutual

def agrees : Json → Json → Bool
  | .null, .null => true
  | .bool a, .bool b => a == b
  | .int a, .int b => a == b
  | .float a, .float b => a.agrees b
  | .string a, .string b => a == b
  | .array a, .array b => agreesItems a b
  | .object a, .object b => agreesMembers a b
  | _, _ => false

def agreesItems : List Json → List Json → Bool
  | [], [] => true
  | a :: as, b :: bs => agrees a b && agreesItems as bs
  | _, _ => false

def agreesMembers : List (String × Json) → List (String × Json) → Bool
  | [], [] => true
  | (m, a) :: as, (n, b) :: bs => m == n && agrees a b && agreesMembers as bs
  | _, _ => false

end

/-- The whole numbers a document can hold: those of 64 bits, signed or not. -/
def IsWord (n : Int) : Prop := -Int.pow 2 63 ≤ n ∧ n < Int.pow 2 64

mutual

def WellFormed : Json → Prop
  | .int n => IsWord n
  | .float x => x.isFinite = true
  | .array items => WellFormedItems items
  | .object members => Ascending members ∧ WellFormedMembers members
  | _ => True

def WellFormedItems : List Json → Prop
  | [] => True
  | a :: as => WellFormed a ∧ WellFormedItems as

def WellFormedMembers : List (String × Json) → Prop
  | [] => True
  | (_, a) :: as => WellFormed a ∧ WellFormedMembers as

end

mutual

/-- How many brackets are open at the deepest place. -/
def depth : Json → Nat
  | .array items => depthItems items + 1
  | .object members => depthMembers members + 1
  | _ => 0

def depthItems : List Json → Nat
  | [] => 0
  | a :: as => max (depth a) (depthItems as)

def depthMembers : List (String × Json) → Nat
  | [] => 0
  | (_, a) :: as => max (depth a) (depthMembers as)

end

end Json

end CheckedSelect
