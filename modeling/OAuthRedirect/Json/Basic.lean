/-!
# JSON values

The values of a JSON document. Integers and doubles are told apart, as the text tells them
apart, and an object is an ordered list of members with one member for each name: `put` keeps
the first position of a name and its last value.
-/

namespace OAuthRedirect

/-- A JSON value. -/
inductive Json where
  | null
  | bool (b : Bool)
  | int (n : Int)
  | real (x : Float)
  | str (s : String)
  /-- A string whose code points include a surrogate without its partner, so that it is no
  text. -/
  | broken (codes : List Nat)
  | arr (items : List Json)
  | obj (members : List (String × Json))
  deriving Inhabited

/-- Names with their values, in order. -/
abbrev Members := List (String × Json)

namespace Members

/-- Gives `name` the value `value`: in its place when it is there, at the end otherwise. -/
def put (name : String) (value : Json) : Members → Members
  | [] => [(name, value)]
  | member :: rest =>
    if member.1 = name then (name, value) :: rest else member :: put name value rest

/-- Puts one member after another. -/
def putAll (members additions : Members) : Members :=
  additions.foldl (fun acc member => acc.put member.1 member.2) members

/-- Members with one entry for each name. -/
def ofPairs (pairs : List (String × Json)) : Members :=
  putAll [] pairs

end Members

namespace Json

/-- The value of a member of an object; `none` for a name that is absent and for a value that
is no object. -/
def field? (name : String) : Json → Option Json
  | obj members => members.lookup name
  | _ => none

/-- Does the value hold something? Null, false, zero and empty strings, lists and objects do
not. -/
def isTruthy : Json → Bool
  | null => false
  | bool b => b
  | int n => n != 0
  | real x => !(x == 0.0)
  | str s => s != ""
  | broken codes => !codes.isEmpty
  | arr items => !items.isEmpty
  | obj members => !members.isEmpty

/-- Is the code point a surrogate? -/
def isSurrogate (code : Nat) : Bool :=
  0xD800 ≤ code && code < 0xE000

/-- The text with these code points, when none of them is a surrogate. -/
def textOfCodes? (codes : List Nat) : Option String :=
  if codes.any isSurrogate then none else some (String.ofList (codes.map Char.ofNat))

/-- A string value of these code points. -/
def ofCodes (codes : List Nat) : Json :=
  match textOfCodes? codes with
  | some s => str s
  | none => broken codes

/-! ### Laws of `ofCodes` -/

theorem ofCodes_of_text {codes : List Nat} (h : codes.any isSurrogate = false) :
    ofCodes codes = .str (String.ofList (codes.map Char.ofNat)) := by
  rw [ofCodes, textOfCodes?, h]
  rfl

theorem ofCodes_of_surrogate {codes : List Nat} (h : codes.any isSurrogate = true) :
    ofCodes codes = .broken codes := by
  rw [ofCodes, textOfCodes?, h]
  rfl

theorem isSurrogate_toNat (c : Char) : isSurrogate c.toNat = false := by
  have hvalid : c.toNat < 0xD800 ∨ 0xDFFF < c.toNat ∧ c.toNat < 0x110000 := c.valid
  rw [isSurrogate, Bool.and_eq_false_iff, decide_eq_false_iff_not, decide_eq_false_iff_not]
  omega

/-- The code points of a text are those of a text. -/
theorem textOfCodes?_toNat (s : String) : textOfCodes? (s.toList.map Char.toNat) = some s := by
  have hnone : (s.toList.map Char.toNat).any isSurrogate = false := by
    rw [List.any_map, List.any_eq_false]
    intro c _
    simp [isSurrogate_toNat]
  have hback : (s.toList.map Char.toNat).map Char.ofNat = s.toList := by
    rw [List.map_map]
    exact (List.map_congr_left fun c _ => Char.ofNat_toNat c).trans (List.map_id _)
  rw [textOfCodes?, hnone, hback, String.ofList_toList]
  rfl

theorem ofCodes_toNat (s : String) : ofCodes (s.toList.map Char.toNat) = .str s := by
  rw [ofCodes, textOfCodes?_toNat]

end Json

end OAuthRedirect
