import SourceSurvey.Value.Order

/-!
# Parts of values

Fields, members and lengths of loosely typed values; each operation says what it needs by failing
with a `Misuse` on any other kind.
-/

namespace SourceSurvey.Value

/-- Sets a field; a field that is there keeps its place. -/
def putField (key : String) (v : Value) : List (String × Value) → List (String × Value)
  | [] => [(key, v)]
  | (k, old) :: rest => if k = key then (k, v) :: rest else (k, old) :: putField key v rest

/-- Adds fields one after the other, the later ones winning. -/
def putFields (fields more : List (String × Value)) : List (String × Value) :=
  more.foldl (fun acc (k, v) => putField k v acc) fields

/-- A field that has to be there. -/
def field (v : Value) (key : String) : Except Misuse Value :=
  match v with
  | .obj fields =>
    match fields.lookup key with
    | some x => .ok x
    | none => .error (.missingField key)
  | .str _ => .error .textField
  | .list _ => .error .listField
  | _ => .error (.notIndexable v.kind)

/-- A field, or a default where the object has none. -/
def fieldOr (v : Value) (key : String) (default : Value) : Except Misuse Value :=
  match v with
  | .obj fields => .ok ((fields.lookup key).getD default)
  | _ => .error (.noOperation v.kind "get")

/-- What a value runs through: the items of a list, the characters of a text, the keys of an
object. -/
def members (v : Value) : Except Misuse (List Value) :=
  match v with
  | .list items => .ok items
  | .str s => .ok (s.toList.map fun c => .str (String.singleton c))
  | .obj fields => .ok (fields.map fun (k, _) => .str k)
  | _ => .error (.notIterable v.kind)

/-- The number of members. -/
def size (v : Value) : Except Misuse Nat :=
  match v with
  | .list items => .ok items.length
  | .str s => .ok s.length
  | .obj fields => .ok fields.length
  | _ => .error (.unsized v.kind)

/-- Whether `part` occurs in a text at its start or later. -/
def occursIn (part : List Char) : List Char → Bool
  | [] => part.isEmpty
  | c :: cs => part.isPrefixOf (c :: cs) || occursIn part cs

/-- Whether a text is among the members of a value; in a text, any part of it is. -/
def holdsText (v : Value) (s : String) : Except Misuse Bool :=
  match v with
  | .list items => .ok (items.any (·.isText s))
  | .str t => .ok (occursIn s.toList t.toList)
  | .obj fields => .ok (fields.any fun (k, _) => k == s)
  | _ => .error (.notSearchable v.kind)

/-- Passes a value that can be a member of a set. -/
def hashable (v : Value) : Except Misuse Value :=
  match v with
  | .list _ | .obj _ => .error (.unhashable v.kind)
  | _ => .ok v

/-- Passes a text. -/
def asText (v : Value) : Except Misuse String :=
  match v with
  | .str s => .ok s
  | _ => .error (.notText v.kind)

/-- The texts of a list that is to be joined; `position` is the number of its first item. -/
def joinable (position : Nat) : List Value → Except Misuse (List String)
  | [] => .ok []
  | .str s :: rest => (joinable (position + 1) rest).map (s :: ·)
  | v :: _ => .error (.joinedItem position v.kind)

/-- Joins a list of texts. -/
def join (separator : String) (items : List Value) : Except Misuse String :=
  (joinable 0 items).map (String.intercalate separator)

end SourceSurvey.Value
