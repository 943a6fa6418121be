/-! # JSON documents -/

namespace RowGate

/-- A number is an integer in the range of 64 bits, signed or unsigned, or else a double. -/
inductive Json.Number where
  | int (n : Int)
  | float (x : Float)
deriving DecidableEq, Repr

/-- A document. The members of an object have distinct names in increasing order. -/
inductive Json where
  | null
  | bool (b : Bool)
  | number (n : Json.Number)
  | string (s : String)
  | array (items : List Json)
  | object (members : List (String × Json))
deriving Repr, Inhabited

namespace Json

mutual

/-- Whether two documents are equal. -/
def same : Json → Json → Bool
  | null, null => true
  | bool a, bool b => a = b
  | number a, number b => a = b
  | string a, string b => a = b
  | array as, array bs => sameItems as bs
  | object as, object bs => sameMembers as bs
  | _, _ => false

def sameItems : List Json → List Json → Bool
  | [], [] => true
  | a :: as, b :: bs => same a b && sameItems as bs
  | _, _ => false

def sameMembers : List (String × Json) → List (String × Json) → Bool
  | [], [] => true
  | (k, a) :: as, (l, b) :: bs => k = l && same a b && sameMembers as bs
  | _, _ => false

end

mutual

theorem same_iff : (a b : Json) → (same a b = true ↔ a = b)
  | null, b => by cases b <;> simp [same]
  | bool _, b => by cases b <;> simp [same]
  | number _, b => by cases b <;> simp [same]
  | string _, b => by cases b <;> simp [same]
  | array as, b => by
    cases b <;> simp only [same, reduceCtorEq, array.injEq, Bool.false_eq_true]
    exact sameItems_iff as _
  | object as, b => by
    cases b <;> simp only [same, reduceCtorEq, object.injEq, Bool.false_eq_true]
    exact sameMembers_iff as _

theorem sameItems_iff : (as bs : List Json) → (sameItems as bs = true ↔ as = bs)
  | [], bs => by cases bs <;> simp [sameItems]
  | a :: as, bs => by
    cases bs with
    | nil => simp [sameItems]
    | cons b bs => simp [sameItems, same_iff a b, sameItems_iff as bs]

theorem sameMembers_iff : (as bs : List (String × Json)) → (sameMembers as bs = true ↔ as = bs)
  | [], bs => by cases bs <;> simp [sameMembers]
  | (k, a) :: as, bs => by
    cases bs with
    | nil => simp [sameMembers]
    | cons b bs => simp [sameMembers, same_iff a b.2, sameMembers_iff as bs, Prod.ext_iff]

end

instance : DecidableEq Json := fun a b => decidable_of_iff _ (same_iff a b)

/-- The members with one more: in its place in the order, or instead of its namesake. -/
def insertMember (k : String) (v : Json) : List (String × Json) → List (String × Json)
  | [] => [(k, v)]
  | (l, w) :: ms =>
    if k < l then (k, v) :: (l, w) :: ms
    else if k = l then (k, v) :: ms
    else (l, w) :: insertMember k v ms

/-- An object from members in any order; of namesakes the last one stays. -/
def ofMembers (ms : List (String × Json)) : Json :=
  object (ms.foldl (fun acc m => insertMember m.1 m.2 acc) [])

/-- The member of an object with a name. -/
def get? (name : String) : Json → Option Json
  | object ms => ms.lookup name
  | _ => none

/-- The item of an array at a position. -/
def item? (i : Nat) : Json → Option Json
  | array items => items[i]?
  | _ => none

def string? : Json → Option String
  | string s => some s
  | _ => none

def isObject : Json → Bool
  | object _ => true
  | _ => false

def ofInt (n : Int) : Json := number (.int n)

def ofStrings (ss : List String) : Json := array (ss.map string)

/-- NaN and the infinities have no number in JSON. -/
def ofFloat (x : Float) : Json := if x.isFinite then number (.float x) else null

def Number.toFloat : Number → Float
  | int n => Float.ofInt n
  | float x => x

end Json

end RowGate
