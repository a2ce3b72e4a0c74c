import Lidora.DocumentStore

/-! # Firestore documents as the client reads and writes them

A document is a map from field names to values (`Doc`), a stored one is found by
its path, and the four ways in which the code writes a document are `setData`,
`setData(merge: true)`, `updateData` and `delete`.  A `Double` is read as an exact
rational.

Swift reads a field with a conditional cast.  The Firestore SDK hands every
number over as an `NSNumber`, and a cast of one succeeds exactly when the target
type can hold its value: an integral double is an `Int`, `1` is a `Bool`, `true`
is `1.0`, and a negative number is no `UInt`.
-/
namespace Lidora
open DocumentStore

/-- A field's value.  Arrays, timestamps, references and points are left out: no
modelled function reads one. -/
inductive Value where
  | null
  | bool (b : Bool)
  | int (n : ℤ)
  | double (q : ℚ)
  | string (s : String)
  | map (fields : List (String × Value))

namespace Value

mutual
/-- Equality of values is decidable; of maps, entry by entry. -/
def decEq : (a b : Value) → Decidable (a = b)
  | .null, .null => isTrue rfl
  | .bool a, .bool b => decidable_of_iff (a = b) (by rw [bool.injEq])
  | .int a, .int b => decidable_of_iff (a = b) (by rw [int.injEq])
  | .double a, .double b => decidable_of_iff (a = b) (by rw [double.injEq])
  | .string a, .string b => decidable_of_iff (a = b) (by rw [string.injEq])
  | .map a, .map b =>
    have := decEqFields a b
    decidable_of_iff (a = b) (by rw [map.injEq])
  | .null, .bool _ | .null, .int _ | .null, .double _ | .null, .string _ | .null, .map _
  | .bool _, .null | .bool _, .int _ | .bool _, .double _ | .bool _, .string _ | .bool _, .map _
  | .int _, .null | .int _, .bool _ | .int _, .double _ | .int _, .string _ | .int _, .map _
  | .double _, .null | .double _, .bool _ | .double _, .int _ | .double _, .string _
  | .double _, .map _
  | .string _, .null | .string _, .bool _ | .string _, .int _ | .string _, .double _
  | .string _, .map _
  | .map _, .null | .map _, .bool _ | .map _, .int _ | .map _, .double _
  | .map _, .string _ => isFalse nofun

def decEqFields : (a b : List (String × Value)) → Decidable (a = b)
  | [], [] => isTrue rfl
  | (k, x) :: xs, (l, y) :: ys =>
    match decEq x y, decEqFields xs ys with
    | isTrue hx, isTrue hs => decidable_of_iff (k = l) (by simp [hx, hs])
    | isFalse hx, _ => isFalse (by simp [hx])
    | _, isFalse hs => isFalse (by simp [hs])
  | [], _ :: _ | _ :: _, [] => isFalse nofun
end

instance : DecidableEq Value := decEq

/-- `as? Double`. -/
def asDouble : Value → Option ℚ
  | .bool b => some (if b then 1 else 0)
  | .int n => some n
  | .double q => some q
  | _ => none

/-- `as? Int`; of the doubles, the whole numbers in the range of `Int`. -/
def asInt : Value → Option ℤ
  | .bool b => some (if b then 1 else 0)
  | .int n => some n
  | .double q => if q.den = 1 ∧ -2 ^ 63 ≤ q.num ∧ q.num < 2 ^ 63 then some q.num else none
  | _ => none

/-- `as? UInt`, likewise. -/
def asUInt : Value → Option ℕ
  | .bool b => some (if b then 1 else 0)
  | .int n => if 0 ≤ n then some n.toNat else none
  | .double q => if q.den = 1 ∧ 0 ≤ q.num ∧ q.num < 2 ^ 64 then some q.num.toNat else none
  | _ => none

/-- `as? Bool`. -/
def asBool : Value → Option Bool
  | .bool b => some b
  | .int n => if n = 0 then some false else if n = 1 then some true else none
  | .double q => if q = 0 then some false else if q = 1 then some true else none
  | _ => none

/-- `as? String`. -/
def asString : Value → Option String
  | .string s => some s
  | _ => none

end Value

/-! ## Documents -/

/-- A document's fields. -/
abbrev Doc : Type := String → Option Value

namespace Doc

/-- The document with exactly these fields: a `setData` without merge. -/
def ofFields (fields : List (String × Value)) : Doc := fun k => fields.lookup k

/-- The document with these fields written over it: `updateData`, and a merging
`setData` of a document that exists. -/
def merge (d : Doc) (fields : List (String × Value)) : Doc :=
  fun k => (fields.lookup k).orElse fun _ => d k

/-- The document without fields. -/
def empty : Doc := fun _ => none

/-- `data[k] as? Double`, and likewise for the other types. -/
def double (d : Doc) (k : String) : Option ℚ := (d k).bind Value.asDouble
def int (d : Doc) (k : String) : Option ℤ := (d k).bind Value.asInt
def uint (d : Doc) (k : String) : Option ℕ := (d k).bind Value.asUInt
def bool (d : Doc) (k : String) : Option Bool := (d k).bind Value.asBool
def string (d : Doc) (k : String) : Option String := (d k).bind Value.asString

end Doc

/-! ## Paths and writes -/

/-- Collections and documents alternate along a path. -/
abbrev Path : Type := List String

/-- All documents of the project. -/
abbrev Firestore : Type := Store Path Doc

/-- A write that a transaction queues. -/
inductive DocWrite where
  | setData (fields : List (String × Value)) (path : Path)
  | updateData (fields : List (String × Value)) (path : Path)

/-- What the write makes of the stored document.  A transaction queues an update
only of a document it has read, so that an update never meets a missing one. -/
def DocWrite.toWrite : DocWrite → Write Path Doc
  | .setData fields path => ⟨path, fun _ => some (Doc.ofFields fields)⟩
  | .updateData fields path => ⟨path, fun d => d.map fun d => d.merge fields⟩

namespace Firestore

/-- `setData(fields)`. -/
def setData (s : Firestore) (path : Path) (fields : List (String × Value)) : Firestore :=
  s.insert path (Doc.ofFields fields)

/-- `setData(fields, merge: true)`: creates the document where it is missing. -/
def setMerge (s : Firestore) (path : Path) (fields : List (String × Value)) : Firestore :=
  s.insert path (((s.lookup path).getD Doc.empty).merge fields)

/-- `updateData(fields)`: fails where the document is missing. -/
def updateData (s : Firestore) (path : Path) (fields : List (String × Value)) :
    Option Firestore :=
  (s.lookup path).map fun d => s.insert path (d.merge fields)

/-- `path` is a document of the collection `coll`. -/
def InCollection (coll path : Path) : Prop := path.dropLast = coll ∧ path ≠ []

instance (coll path : Path) : Decidable (InCollection coll path) :=
  inferInstanceAs (Decidable (_ ∧ _))

/-- The documents of a collection are named by an id each. -/
theorem inCollection_iff {coll p : Path} : InCollection coll p ↔ ∃ id, p = coll ++ [id] := by
  constructor
  · rintro ⟨rfl, hne⟩
    exact ⟨p.getLast hne, (List.dropLast_append_getLast hne).symm⟩
  · rintro ⟨id, rfl⟩
    exact ⟨List.dropLast_concat, by simp⟩

/-- `getDocuments()` of a collection: the paths of its documents, in the order of
their ids. -/
def documents (s : Firestore) (coll : Path) : List Path :=
  (s.keys.filter (InCollection coll)).sort (· ≤ ·)

theorem mem_documents {s : Firestore} {coll p : Path} :
    p ∈ s.documents coll ↔ InCollection coll p ∧ (s.lookup p).isSome := by
  rw [documents, Finset.mem_sort, Finset.mem_filter, Finmap.mem_keys, Finmap.lookup_isSome,
    and_comm]

end Firestore

/-! ## The references of `DataService` -/

/-- `RefCurrentUser`, for the signed-in customer `uid`. -/
def refCurrentUser (uid : String) : Path := ["customers", uid]

/-- `RefPaymentsMethods`. -/
def refPaymentsMethods (uid : String) : Path := refCurrentUser uid ++ ["payment_methods"]

/-- `RefOrders`. -/
def refOrders (uid : String) : Path := refCurrentUser uid ++ ["orders"]

/-- `RefPayments`. -/
def refPayments (uid : String) : Path := refCurrentUser uid ++ ["payments"]

/-- `RefOrders.document(orderId)`. -/
def orderRef (uid orderId : String) : Path := refOrders uid ++ [orderId]

/-- The `items` collection under an order. -/
def itemsRef (uid orderId : String) : Path := orderRef uid orderId ++ ["items"]

/-- `ref.collection("items").document(id)`. -/
def itemRef (uid orderId id : String) : Path := itemsRef uid orderId ++ [id]

end Lidora
