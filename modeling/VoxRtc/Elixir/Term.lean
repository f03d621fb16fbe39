import VoxRtc.Wire.Json

/-!
# Elixir terms

The terms that the control stream and the gateway pass on, as far as they can tell them
apart: a struct is kept with its fields, and a binary that is known to be text apart from
raw bytes.
-/
namespace VoxRtc.Elixir

open Wire

/-- A number; a float is always finite. -/
inductive Number where
  | int (n : Int)
  | float (x : Finite64)
  deriving DecidableEq, Repr

/-- A key of a map. -/
inductive Key where
  | atom (name : String)
  | text (s : String)
  deriving DecidableEq, Repr

/-- `to_string/1`. -/
def Key.toString : Key → String
  | atom name => name
  | text s => s

/-- A `pid` is any term that JSON has nothing for: a reference or a function as well. -/
inductive Term where
  | nil
  | bool (b : Bool)
  | number (n : Number)
  | atom (name : String)
  | text (s : String)
  | bytes (b : ByteArray)
  | pid (n : Nat)
  | list (items : List Term)
  | tuple (items : List Term)
  | map (members : List (Key × Term))
  | struct (fields : List (String × Term))

namespace Term

def isNil : Term → Bool
  | nil => true
  | _ => false

/-- A decoded JSON value. -/
def ofJson : Json Number → Term
  | .null => nil
  | .bool b => bool b
  | .num n => number n
  | .str s => text s
  | .arr items => list (ofItems items)
  | .obj members => map (ofMembers members)
where
  ofItems : List (Json Number) → List Term
    | [] => []
    | item :: items => ofJson item :: ofItems items
  ofMembers : List (String × Json Number) → List (Key × Term)
    | [] => []
    | (key, value) :: members => (.text key, ofJson value) :: ofMembers members

/-- Induction over a term, through the terms inside it. -/
theorem inside {P : Term → Prop} (nil : P nil) (bool : ∀ b, P (bool b))
    (number : ∀ n, P (number n)) (atom : ∀ name, P (atom name)) (text : ∀ s, P (text s))
    (bytes : ∀ b, P (bytes b)) (pid : ∀ n, P (pid n))
    (list : ∀ items, (∀ item ∈ items, P item) → P (list items))
    (tuple : ∀ items, (∀ item ∈ items, P item) → P (tuple items))
    (map : ∀ members, (∀ member ∈ members, P member.2) → P (map members))
    (struct : ∀ fields, (∀ field ∈ fields, P field.2) → P (struct fields)) (term : Term) :
    P term := by
  refine @Term.rec P (fun items => ∀ item ∈ items, P item)
    (fun members => ∀ member ∈ members, P member.2) (fun fields => ∀ field ∈ fields, P field.2)
    (fun member => P member.2) (fun field => P field.2)
    nil bool number atom text bytes pid list tuple map struct ?_ ?_ ?_ ?_ ?_ ?_ ?_ ?_ term
  · simp
  · exact fun item items first rest => List.forall_mem_cons.mpr ⟨first, rest⟩
  · simp
  · exact fun member members first rest => List.forall_mem_cons.mpr ⟨first, rest⟩
  · simp
  · exact fun field fields first rest => List.forall_mem_cons.mpr ⟨first, rest⟩
  · exact fun _ _ holds => holds
  · exact fun _ _ holds => holds

@[simp] theorem ofItems_eq (items : List (Json Number)) :
    ofJson.ofItems items = items.map ofJson := by
  induction items with
  | nil => rw [ofJson.ofItems, List.map_nil]
  | cons item items ih => rw [ofJson.ofItems, ih, List.map_cons]

@[simp] theorem ofMembers_eq (members : List (String × Json Number)) :
    ofJson.ofMembers members = members.map fun m => (.text m.1, ofJson m.2) := by
  induction members with
  | nil => rw [ofJson.ofMembers, List.map_nil]
  | cons member members ih => rw [ofJson.ofMembers, ih, List.map_cons]

/-- A float of a protobuf message: the ones that Elixir has no float for are atoms. -/
def ofFloat : Binary64 → Term
  | .finite x => number (.float x)
  | .infinity false => atom "infinity"
  | .infinity true => atom "negative_infinity"
  | .nan => atom "nan"

def ofNat (n : Nat) : Term := number (.int n)

/-- An optional field. -/
def opt {α : Type} (f : α → Term) : Option α → Term
  | none => nil
  | some a => f a

end Term

end VoxRtc.Elixir
