import OAuthRedirect.Text.CaseTable

/-!
# Upper and lower case

The full case mappings of Unicode: a character may become several (`upper` takes `ß` to
`SS`), and the lower-case form of a capital sigma depends on its neighbours. It is `ς` when
the nearest letter before it is cased and the nearest one after it is not, and `σ` otherwise.
-/

namespace OAuthRedirect.Text

/-- A character that is skipped in the search for the letters beside a sigma. -/
def isCaseIgnorable (c : Char) : Bool :=
  caseIgnorableRanges.mem c.toNat

/-- A cased letter, of those that are not skipped. -/
def isCased (c : Char) : Bool :=
  casedRanges.mem c.toNat

private def fullCase (expansions : List (Nat × List Nat)) (table : List CaseRun) (c : Char) :
    List Char :=
  match expansions.lookup c.toNat with
  | some codes => codes.map Char.ofNat
  | none => [Char.ofNat (mapCase table c.toNat)]

/-- The upper-case form of a character. -/
def upperChar (c : Char) : List Char :=
  fullCase upperExpansions upperRuns c

/-- The lower-case form of a character on its own. -/
def lowerChar (c : Char) : List Char :=
  fullCase lowerExpansions lowerRuns c

theorem lowerChar_eq (c : Char) :
    lowerChar c = (lowerExpansions.lookup c.toNat).elim
      [Char.ofNat (mapCase lowerRuns c.toNat)] (·.map Char.ofNat) := by
  rw [lowerChar, fullCase]
  cases lowerExpansions.lookup c.toNat with
  | none => rfl
  | some codes => rfl

/-- The upper-case form of a text. -/
def upper (cs : List Char) : List Char :=
  cs.flatMap upperChar

/-- Is the first letter of the text, skipped characters apart, a cased one? -/
def startsCased (cs : List Char) : Bool :=
  ((cs.dropWhile isCaseIgnorable).head?.map isCased).getD false

/-- The lower-case form of a text; `afterCased` says whether the nearest letter before it is
cased. -/
def lowerAfter (afterCased : Bool) : List Char → List Char
  | [] => []
  | c :: cs =>
    (if c = 'Σ' then [if afterCased && !startsCased cs then 'ς' else 'σ'] else lowerChar c) ++
      lowerAfter (if isCaseIgnorable c then afterCased else isCased c) cs

/-- The lower-case form of a text. -/
def lower (cs : List Char) : List Char :=
  lowerAfter false cs

end OAuthRedirect.Text
