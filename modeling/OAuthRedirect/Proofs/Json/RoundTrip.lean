import OAuthRedirect.Json.Reader
import OAuthRedirect.Json.Writer
import OAuthRedirect.Proofs.Pairs

/-!
# Reading what was written

A text is written between quotes with some of its characters escaped, and reading takes the
escapes back (`Json.value_writeString`). So an object whose values are texts is read as it was
written, as long as no name occurs twice (`Json.read_write_texts`), and so is a list of such objects
(`Json.read_write_rows`).

Reading counts offsets to have a place for its errors. No error comes up here, so the offsets are
left open.
-/

namespace OAuthRedirect

namespace Json

open Text

/-! ### Characters in strings -/

theorem codeUnit?_padded {n : Nat} (h : n < 0x10000) : codeUnit? (Hex.padded 4 n) = some n := by
  have hdigit : ∀ m, Hex.value? (Hex.lower (m % 16)) = some (m % 16) := fun m =>
    Hex.value?_lower _ (Nat.mod_lt m (by decide))
  have hpadded : Hex.padded 4 n =
      [Hex.lower (n / 16 / 16 / 16 % 16), Hex.lower (n / 16 / 16 % 16), Hex.lower (n / 16 % 16),
        Hex.lower (n % 16)] := rfl
  have hvalue : 4096 * (n / 16 / 16 / 16 % 16) + 256 * (n / 16 / 16 % 16) + 16 * (n / 16 % 16) +
      n % 16 = n := by omega
  rw [hpadded, codeUnit?, hdigit, hdigit, hdigit, hdigit]
  exact congrArg some hvalue

/-- The escape of a code point below the surrogates is read back, when something follows it. -/
theorem codeEscape_padded {n : Nat} (h : n < 0xD800) (offset : Nat) {cs : List Char}
    (hcs : cs ≠ []) : codeEscape offset (Hex.padded 4 n ++ cs) = .ok (n, 4) := by
  have hlength := Hex.length_padded 4 n
  have henough : ¬ ((Hex.padded 4 n ++ cs).take 5).length < 5 := by
    have := List.length_pos_iff.mpr hcs
    simp only [List.length_take, List.length_append, hlength]
    omega
  have htake : (Hex.padded 4 n ++ cs).take 4 = Hex.padded 4 n := List.take_left' hlength
  have hlow : ¬ 0xD800 ≤ n := by omega
  simp only [codeEscape, if_neg henough, htake, codeUnit?_padded (show n < 0x10000 by omega), hlow,
    false_and, if_false]

/-- A character in a string stands for itself or is escaped, and its escape is read back. -/
theorem escapeChar_cases (c : Char) :
    escapeChar c = [c] ∧ c ≠ '"' ∧ c ≠ '\\' ∧ 32 ≤ c.toNat ∨
      ∃ written, escapeChar c = '\\' :: written ∧ (∀ d ∈ written, 32 ≤ d.toNat) ∧
        ∀ start offset cs, cs ≠ [] →
          escape start offset (written ++ cs) = .ok (c.toNat, written.length) := by
  by_cases hquote : c = '"'
  · subst hquote
    exact .inr ⟨['"'], rfl, by simp, fun _ _ _ _ => rfl⟩
  by_cases hbackslash : c = '\\'
  · subst hbackslash
    exact .inr ⟨['\\'], rfl, by simp, fun _ _ _ _ => rfl⟩
  by_cases hline : c = '\n'
  · subst hline
    exact .inr ⟨['n'], rfl, by simp, fun _ _ _ _ => rfl⟩
  by_cases hreturn : c = '\r'
  · subst hreturn
    exact .inr ⟨['r'], rfl, by simp, fun _ _ _ _ => rfl⟩
  by_cases htab : c = '\t'
  · subst htab
    exact .inr ⟨['t'], rfl, by simp, fun _ _ _ _ => rfl⟩
  rw [escapeChar, if_neg hquote, if_neg hbackslash, if_neg hline, if_neg hreturn, if_neg htab]
  by_cases hbackspace : c.toNat = 8
  · rw [if_pos hbackspace, hbackspace]
    exact .inr ⟨['b'], rfl, by simp, fun _ _ _ _ => rfl⟩
  rw [if_neg hbackspace]
  by_cases hfeed : c.toNat = 12
  · rw [if_pos hfeed, hfeed]
    exact .inr ⟨['f'], rfl, by simp, fun _ _ _ _ => rfl⟩
  rw [if_neg hfeed]
  by_cases hcontrol : c.toNat < 32
  · rw [if_pos hcontrol]
    refine .inr ⟨'u' :: Hex.padded 4 c.toNat, rfl, ?_, fun start offset cs hcs => ?_⟩
    · refine List.forall_mem_cons.mpr ⟨by decide, fun d hd => ?_⟩
      exact Nat.le_trans (by decide) (Hex.le_of_mem_padded hd)
    · rw [List.cons_append, escape, codeEscape_padded (by omega) _ hcs, List.length_cons,
        Hex.length_padded]
      rfl
  · rw [if_neg hcontrol]
    exact .inl ⟨rfl, hquote, hbackslash, Nat.le_of_not_lt hcontrol⟩

/-- No control is written inside a string. -/
theorem le_of_mem_escapeChar {c d : Char} (h : d ∈ escapeChar c) : 32 ≤ d.toNat := by
  rcases escapeChar_cases c with ⟨hself, -, -, hprint⟩ | ⟨written, hwritten, hprint, -⟩
  · rw [hself] at h
    obtain rfl := List.mem_singleton.mp h
    exact hprint
  · rw [hwritten] at h
    exact List.forall_mem_cons.mpr ⟨by decide, hprint⟩ d h

/-- One character of a string is read. -/
theorem stringBody_escapeChar (start offset : Nat) (c : Char) {cs : List Char} (hcs : cs ≠ []) :
    ∃ offset', stringBody start offset (escapeChar c ++ cs) =
      (stringBody start offset' cs).map fun (codes, rest) => (c.toNat :: codes, rest) := by
  rcases escapeChar_cases c with
    ⟨hself, hquote, hbackslash, hprint⟩ | ⟨written, hwritten, -, hread⟩
  · refine ⟨offset + 1, ?_⟩
    rw [hself, List.singleton_append, stringBody, if_neg hquote, if_neg hbackslash,
      if_neg (Nat.not_lt.mpr hprint)]
  · refine ⟨offset + 1 + written.length, ?_⟩
    rw [hwritten, List.cons_append, stringBody, if_neg (by decide), if_pos rfl]
    simp only [hread _ _ _ hcs, List.drop_left]

/-! ### Strings -/

/-- The characters of a string are read up to its closing quote. -/
theorem stringBody_flatMap_escapeChar (start offset : Nat) (cs rest : List Char) :
    ∃ offset', stringBody start offset (cs.flatMap escapeChar ++ '"' :: rest) =
      .ok (cs.map Char.toNat, offset', rest) := by
  induction cs generalizing offset with
  | nil =>
    refine ⟨offset + 1, ?_⟩
    rw [List.flatMap_nil, List.nil_append, stringBody, if_pos rfl]
    rfl
  | cons c cs ih =>
    have hne : cs.flatMap escapeChar ++ '"' :: rest ≠ [] := by simp
    obtain ⟨next, hchar⟩ := stringBody_escapeChar start offset c hne
    obtain ⟨offset', hrest⟩ := ih next
    refine ⟨offset', ?_⟩
    rw [List.flatMap_cons, List.append_assoc, hchar, hrest]
    rfl

theorem toList_writeString_append (s : String) (rest : List Char) :
    (writeString s).toList ++ rest = '"' :: (s.toList.flatMap escapeChar ++ '"' :: rest) := by
  simp [writeString]

/-- **Strings are read as they were written.** -/
theorem value_writeString (fuel nesting offset : Nat) (s : String) (rest : List Char) :
    ∃ offset', value (fuel + 1) nesting offset ((writeString s).toList ++ rest) =
      .ok (.str s, offset', rest) := by
  obtain ⟨offset', hbody⟩ := stringBody_flatMap_escapeChar offset (offset + 1) s.toList rest
  refine ⟨offset', ?_⟩
  rw [toList_writeString_append, value, hbody]
  simp only [Except.map, ofCodes_toNat]

/-! ### Objects of texts -/

/-- Members whose values are texts. -/
def texts (pairs : List (String × String)) : Members :=
  pairs.map fun pair => (pair.1, .str pair.2)

/-- A member as it is written. -/
def memberText (pair : String × String) : List Char :=
  (writeString pair.1).toList ++ ':' :: (writeString pair.2).toList

theorem writeMembers_texts (pairs : List (String × String)) :
    (writeMembers (texts pairs)).map String.toList = pairs.map memberText := by
  induction pairs with
  | nil => rfl
  | cons pair rest ih =>
    have hfirst : (writeString pair.1 ++ ":" ++ write (.str pair.2)).toList = memberText pair := by
      simp [memberText, write]
    change (writeMembers ((pair.1, .str pair.2) :: texts rest)).map String.toList = _
    rw [writeMembers, List.map_cons, List.map_cons, hfirst, ih]

theorem toList_write_texts (pairs : List (String × String)) :
    (write (.obj (texts pairs))).toList =
      '\x7b' :: ([','].intercalate (pairs.map memberText) ++ ['\x7d']) := by
  rw [write, String.toList_append, String.toList_append, String.toList_intercalate,
    writeMembers_texts]
  rfl

theorem compactMembers_texts (pairs : List (String × String)) :
    compactMembers (texts pairs) = (pairs.map memberText).map (List.map Char.toNat) := by
  induction pairs with
  | nil => rfl
  | cons pair rest ih =>
    have htexts : texts (pair :: rest) = (pair.1, .str pair.2) :: texts rest := rfl
    rw [htexts, compactMembers, ih, compactCodes_str, List.map_cons, List.map_cons, memberText,
      List.map_append, List.map_cons]

/-- An object of texts has a text for its compact form: what it is written as. -/
theorem compact_texts (pairs : List (String × String)) :
    (obj (texts pairs)).compact = .text (obj (texts pairs)).write := by
  have hcodes : (obj (texts pairs)).compactCodes =
      (obj (texts pairs)).write.toList.map Char.toNat := by
    rw [compactCodes, compactMembers_texts, toList_write_texts, List.map_cons, List.map_append,
      Text.map_intercalate]
    rfl
  rw [compact, hcodes, WideString.ofCodes_toNat, String.ofList_toList]

/-- Members begin with the quote of the first name. -/
theorem intercalate_memberText (pair : String × String) (tail : List (String × String))
    (rest : List Char) :
    ∃ cs, [','].intercalate ((pair :: tail).map memberText) ++ rest = '"' :: cs := by
  cases tail with
  | nil =>
    rw [List.map_singleton, List.intercalate_singleton, memberText, List.append_assoc,
      toList_writeString_append]
    exact ⟨_, rfl⟩
  | cons next tail =>
    rw [List.map_cons, List.map_cons, List.intercalate_cons_cons, memberText, List.append_assoc,
      List.append_assoc, List.append_assoc, toList_writeString_append]
    exact ⟨_, rfl⟩

theorem skipSpace_cons {c : Char} (h : isSpace c = false) (offset : Nat) (cs : List Char) :
    skipSpace offset (c :: cs) = (offset, c :: cs) := by
  rw [skipSpace, if_neg (by simp [h])]

/-- The first of some members is read. What is behind it says whether another one follows. -/
theorem members_memberText (fuel nesting offset : Nat) (found : Members) (pair : String × String)
    {c : Char} (hc : c = '\x7d' ∨ c = ',') (rest : List Char) :
    ∃ offset', members (fuel + 2) nesting found offset (memberText pair ++ c :: rest) =
      if c = '\x7d' then .ok (found.put pair.1 (.str pair.2), offset', rest)
      else members (fuel + 1) nesting (found.put pair.1 (.str pair.2)) (skipSpace offset' rest).1
        (skipSpace offset' rest).2 := by
  have htext : memberText pair ++ c :: rest =
      '"' :: (pair.1.toList.flatMap escapeChar ++
        '"' :: ':' :: ((writeString pair.2).toList ++ c :: rest)) := by
    rw [memberText, List.append_assoc, toList_writeString_append, List.cons_append]
  obtain ⟨afterName, hname⟩ := stringBody_flatMap_escapeChar offset (offset + 1) pair.1.toList
    (':' :: ((writeString pair.2).toList ++ c :: rest))
  obtain ⟨afterValue, hvalue⟩ :=
    value_writeString fuel nesting (afterName + 1) pair.2 (c :: rest)
  have hcolon : isSpace ':' = false := rfl
  have hquote : skipSpace (afterName + 1) ((writeString pair.2).toList ++ c :: rest) =
      (afterName + 1, (writeString pair.2).toList ++ c :: rest) := by
    rw [toList_writeString_append, skipSpace_cons rfl]
  have hend : isSpace c = false := by
    rcases hc with rfl | rfl <;> rfl
  refine ⟨afterValue + 1, ?_⟩
  rw [htext, members]
  simp only [hname, Except.bind, bind, skipSpace_cons hcolon, hquote, hvalue, textOfCodes?_toNat,
    skipSpace_cons hend]
  rcases hc with rfl | rfl <;> rfl

/-- **Members are read as they were written**, one after another, with a unit of fuel for each and
one more for the last value. -/
theorem members_texts {pairs : List (String × String)} (hne : pairs ≠ []) {fuel : Nat}
    (hfuel : pairs.length < fuel) (nesting offset : Nat) (found : Members) (rest : List Char) :
    ∃ offset', members fuel nesting found offset
        ([','].intercalate (pairs.map memberText) ++ '\x7d' :: rest) =
      .ok (found.putAll (texts pairs), offset', rest) := by
  induction pairs generalizing fuel offset found with
  | nil => contradiction
  | cons pair tail ih =>
    obtain ⟨fuel, rfl⟩ : ∃ left, fuel = left + 2 := ⟨fuel - 2, by simp at hfuel; omega⟩
    cases tail with
    | nil =>
      obtain ⟨offset', hlast⟩ :=
        members_memberText fuel nesting offset found pair (.inl rfl) rest
      refine ⟨offset', ?_⟩
      rw [List.map_singleton, List.intercalate_singleton, hlast, if_pos rfl]
      rfl
    | cons next tail =>
      obtain ⟨afterComma, hfirst⟩ := members_memberText fuel nesting offset found pair
        (.inr rfl) ([','].intercalate ((next :: tail).map memberText) ++ '\x7d' :: rest)
      obtain ⟨cs, hquote⟩ := intercalate_memberText next tail ('\x7d' :: rest)
      have hfuel' : (next :: tail).length < fuel + 1 := by simpa using hfuel
      obtain ⟨offset', hrest⟩ := ih (List.cons_ne_nil next tail) hfuel' afterComma
        (found.put pair.1 (.str pair.2))
      refine ⟨offset', ?_⟩
      rw [hquote] at hfirst hrest
      rw [List.map_cons, List.map_cons, List.intercalate_cons_cons, List.append_assoc,
        List.append_assoc, List.singleton_append, ← List.map_cons, hquote, hfirst,
        if_neg (by decide), skipSpace_cons rfl, hrest]
      rfl

theorem length_le_intercalate_memberText (pairs : List (String × String)) :
    pairs.length ≤ ([','].intercalate (pairs.map memberText)).length := by
  have hpos : ∀ pair, 1 ≤ (memberText pair).length := fun pair => by
    simp only [memberText, List.length_append, List.length_cons]
    omega
  induction pairs with
  | nil => exact Nat.zero_le _
  | cons pair tail ih =>
    cases tail with
    | nil =>
      rw [List.map_singleton, List.intercalate_singleton]
      exact hpos pair
    | cons next tail =>
      have := hpos pair
      rw [List.map_cons, List.map_cons, List.intercalate_cons_cons, ← List.map_cons,
        List.length_append, List.length_append, List.length_cons]
      omega

/-- **Objects of texts are read as they were written**, when no name occurs twice. -/
theorem value_write_texts {pairs : List (String × String)} (hne : pairs ≠ [])
    (hnodup : (pairs.map Prod.fst).Nodup) {fuel : Nat} (hfuel : pairs.length < fuel)
    (nesting offset : Nat) (rest : List Char) :
    ∃ offset', value (fuel + 1) (nesting + 1) offset
        ((write (.obj (texts pairs))).toList ++ rest) =
      .ok (.obj (texts pairs), offset', rest) := by
  have hnames : (([] ++ texts pairs).map Prod.fst).Nodup := by
    rw [List.nil_append, texts, List.map_map]
    exact hnodup
  obtain ⟨offset', hmembers⟩ := members_texts hne hfuel nesting (offset + 1) [] rest
  obtain ⟨pair, tail, rfl⟩ := List.exists_cons_of_ne_nil hne
  obtain ⟨cs, hquote⟩ := intercalate_memberText pair tail ('\x7d' :: rest)
  rw [Members.putAll_of_nodup hnames, hquote] at hmembers
  refine ⟨offset', ?_⟩
  rw [toList_write_texts, List.cons_append, List.append_assoc, List.singleton_append, hquote]
  unfold value
  simp only [skipSpace_cons (show isSpace '"' = false from rfl)]
  change (members fuel nesting [] (offset + 1) ('"' :: cs)).map _ = _
  rw [hmembers]
  rfl

/-- The document of an object of texts. -/
theorem read_write_texts {pairs : List (String × String)} (hne : pairs ≠ [])
    (hnodup : (pairs.map Prod.fst).Nodup) :
    read (write (.obj (texts pairs))) = .ok (.obj (texts pairs)) := by
  -- the object takes one unit of fuel and each member another one
  have hfuel : pairs.length < 2 * (write (.obj (texts pairs))).toList.length + 1 := by
    have := length_le_intercalate_memberText pairs
    rw [toList_write_texts, List.length_cons, List.length_append]
    omega
  obtain ⟨offset', hvalue⟩ := value_write_texts hne hnodup hfuel 989 0 []
  obtain ⟨cs, hopen⟩ : ∃ cs, (write (.obj (texts pairs))).toList = '\x7b' :: cs :=
    ⟨_, toList_write_texts pairs⟩
  rw [List.append_nil] at hvalue
  simp only [read, hopen, nestingLimit, skipSpace_cons (show isSpace '\x7b' = false from rfl)]
  rw [if_neg (by simp)]
  change Except.bind (value _ 990 0 ('\x7b' :: cs)) _ = _
  rw [← hopen, hvalue]
  rfl

/-! ### Lists of objects of texts -/

/-- A list of objects whose values are texts. -/
def rows (list : List (List (String × String))) : List Json :=
  list.map fun pairs => .obj (texts pairs)

/-- An object of such a list as it is written. -/
def rowText (pairs : List (String × String)) : List Char :=
  (write (.obj (texts pairs))).toList

/-- Does every object have members, and no name twice? -/
def AreRows (list : List (List (String × String))) : Prop :=
  ∀ pairs ∈ list, pairs ≠ [] ∧ (pairs.map Prod.fst).Nodup

theorem writeItems_rows (list : List (List (String × String))) :
    (writeItems (rows list)).map String.toList = list.map rowText := by
  induction list with
  | nil => rfl
  | cons pairs rest ih =>
    change (writeItems (.obj (texts pairs) :: rows rest)).map String.toList = _
    rw [writeItems, List.map_cons, List.map_cons, ih, rowText]

theorem toList_write_rows (list : List (List (String × String))) :
    (write (.arr (rows list))).toList =
      '[' :: ([','].intercalate (list.map rowText) ++ [']']) := by
  rw [write, String.toList_append, String.toList_append, String.toList_intercalate, writeItems_rows]
  rfl

/-- A list begins with the brace of its first object. -/
theorem intercalate_rowText (pairs : List (String × String)) (tail : List (List (String × String)))
    (rest : List Char) :
    ∃ cs, [','].intercalate ((pairs :: tail).map rowText) ++ rest = '\x7b' :: cs := by
  cases tail with
  | nil =>
    rw [List.map_singleton, List.intercalate_singleton, rowText, toList_write_texts]
    exact ⟨_, rfl⟩
  | cons next tail =>
    rw [List.map_cons, List.map_cons, List.intercalate_cons_cons, rowText, toList_write_texts]
    exact ⟨_, rfl⟩

/-- **Objects are read as they were written**, one after another. Each takes a unit of fuel, and two
more than it has members are left for the last one. -/
theorem elements_rows {list : List (List (String × String))} (hne : list ≠ [])
    (hrows : AreRows list) {fuel : Nat}
    (hfuel : ∀ pairs ∈ list, list.length + pairs.length + 2 ≤ fuel) (nesting offset : Nat)
    (rest : List Char) :
    ∃ offset', elements fuel (nesting + 1) offset
        ([','].intercalate (list.map rowText) ++ ']' :: rest) = .ok (rows list, offset', rest) := by
  induction list generalizing fuel offset with
  | nil => contradiction
  | cons pairs tail ih =>
    obtain ⟨⟨hpairs, hnodup⟩, hrest⟩ := List.forall_mem_cons.mp hrows
    obtain ⟨hfirst, hothers⟩ := List.forall_mem_cons.mp hfuel
    rw [List.length_cons] at hfirst hothers
    obtain ⟨fuel, rfl⟩ : ∃ left, fuel = left + 2 := ⟨fuel - 2, by omega⟩
    have hleft : pairs.length < fuel := by omega
    have hvalue := value_write_texts hpairs hnodup hleft nesting offset
    cases tail with
    | nil =>
      obtain ⟨offset', hread⟩ := hvalue (']' :: rest)
      refine ⟨offset' + 1, ?_⟩
      rw [List.map_singleton, List.intercalate_singleton, rowText, elements, hread]
      simp only [bind, Except.bind, skipSpace_cons (show isSpace ']' = false from rfl)]
      rfl
    | cons next tail =>
      obtain ⟨cs, hbrace⟩ := intercalate_rowText next tail (']' :: rest)
      obtain ⟨afterItem, hread⟩ := hvalue (',' :: '\x7b' :: cs)
      have hleft : ∀ others ∈ next :: tail,
          (next :: tail).length + others.length + 2 ≤ fuel + 1 := fun others hmem => by
        have := hothers others hmem
        omega
      obtain ⟨offset', htail⟩ := ih (List.cons_ne_nil next tail) hrest hleft (afterItem + 1)
      rw [hbrace] at htail
      refine ⟨offset', ?_⟩
      rw [List.map_cons, List.map_cons, List.intercalate_cons_cons, List.append_assoc,
        List.append_assoc, List.singleton_append, ← List.map_cons, hbrace, rowText, elements, hread]
      simp only [bind, Except.bind, skipSpace_cons (show isSpace ',' = false from rfl),
        skipSpace_cons (show isSpace '\x7b' = false from rfl), htail]
      rfl

theorem length_le_rowText (pairs : List (String × String)) :
    pairs.length + 2 ≤ (rowText pairs).length := by
  have := length_le_intercalate_memberText pairs
  rw [rowText, toList_write_texts, List.length_cons, List.length_append, List.length_singleton]
  omega

/-- Neither the list nor any of its objects is longer than the text. -/
theorem length_le_intercalate_rowText {list : List (List (String × String))}
    {pairs : List (String × String)} (hmem : pairs ∈ list) :
    list.length + pairs.length + 1 ≤ ([','].intercalate (list.map rowText)).length := by
  induction list generalizing pairs with
  | nil => cases hmem
  | cons first tail ih =>
    have hfirst := length_le_rowText first
    cases tail with
    | nil =>
      obtain rfl := List.mem_singleton.mp hmem
      rw [List.map_singleton, List.intercalate_singleton, List.length_singleton]
      omega
    | cons next tail =>
      have htail : ∀ others ∈ next :: tail, _ := fun others hothers => ih hothers
      have hnext := htail next List.mem_cons_self
      rw [List.map_cons, List.map_cons, List.intercalate_cons_cons, ← List.map_cons,
        List.length_append, List.length_append, List.length_cons, List.length_singleton]
      obtain rfl | hmem := List.mem_cons.mp hmem
      · omega
      · have := htail pairs hmem
        omega

/-- **The document of a list of objects of texts** is read as it was written. -/
theorem read_write_rows {list : List (List (String × String))} (hne : list ≠ [])
    (hrows : AreRows list) : read (write (.arr (rows list))) = .ok (.arr (rows list)) := by
  have hfuel : ∀ pairs ∈ list,
      list.length + pairs.length + 2 ≤ 2 * (write (.arr (rows list))).toList.length + 1 := by
    intro pairs hmem
    have := length_le_intercalate_rowText hmem
    rw [toList_write_rows, List.length_cons, List.length_append]
    omega
  obtain ⟨offset', helements⟩ := elements_rows hne hrows hfuel 988 1 []
  obtain ⟨pairs, tail, rfl⟩ := List.exists_cons_of_ne_nil hne
  obtain ⟨cs, hbrace⟩ := intercalate_rowText pairs tail [']']
  have hopen : (write (.arr (rows (pairs :: tail)))).toList = '[' :: '\x7b' :: cs := by
    rw [toList_write_rows, hbrace]
  rw [hbrace] at helements
  simp only [read, hopen, nestingLimit, skipSpace_cons (show isSpace '[' = false from rfl)]
  rw [if_neg (by simp)]
  change Except.bind (value (_ + 1) 990 0 ('[' :: '\x7b' :: cs)) _ = _
  unfold value
  simp only [skipSpace_cons (show isSpace '\x7b' = false from rfl)]
  rw [← hopen]
  change Except.bind ((elements _ 989 1 ('\x7b' :: cs)).map _) _ = _
  rw [helements]
  rfl

/-! ### Controls -/

theorem le_of_mem_writeString {s : String} {c : Char} (h : c ∈ (writeString s).toList) :
    32 ≤ c.toNat := by
  rw [writeString, String.toList_ofList] at h
  obtain h | h := List.mem_append.mp h
  · obtain rfl | h := List.mem_cons.mp h
    · decide
    · obtain ⟨d, -, h⟩ := List.mem_flatMap.mp h
      exact le_of_mem_escapeChar h
  · obtain rfl := List.mem_singleton.mp h
    decide

/-- Pieces without controls, between commas and in brackets, are a text without controls. -/
theorem le_of_mem_enclosed {first last c : Char} {pieces : List (List Char)}
    (hfirst : 32 ≤ first.toNat) (hlast : 32 ≤ last.toNat)
    (hpieces : ∀ piece ∈ pieces, ∀ d ∈ piece, 32 ≤ d.toNat)
    (h : c ∈ first :: ([','].intercalate pieces ++ [last])) : 32 ≤ c.toNat := by
  obtain rfl | h := List.mem_cons.mp h
  · exact hfirst
  obtain h | h := List.mem_append.mp h
  · obtain rfl | ⟨piece, hpiece, hc⟩ := mem_of_mem_intercalate h
    · decide
    · exact hpieces piece hpiece c hc
  · obtain rfl := List.mem_singleton.mp h
    exact hlast

theorem le_of_mem_rowText {pairs : List (String × String)} {c : Char} (h : c ∈ rowText pairs) :
    32 ≤ c.toNat := by
  rw [rowText, toList_write_texts] at h
  refine le_of_mem_enclosed (by decide) (by decide) (List.forall_mem_map.mpr fun pair _ d hd => ?_) h
  obtain hd | hd := List.mem_append.mp hd
  · exact le_of_mem_writeString hd
  · obtain rfl | hd := List.mem_cons.mp hd
    · decide
    · exact le_of_mem_writeString hd

/-- **No control is written** into a list of objects of texts, and so no line end. -/
theorem le_of_mem_write_rows {list : List (List (String × String))} {c : Char}
    (h : c ∈ (write (.arr (rows list))).toList) : 32 ≤ c.toNat := by
  rw [toList_write_rows] at h
  exact le_of_mem_enclosed (by decide) (by decide)
    (List.forall_mem_map.mpr fun pairs _ d => le_of_mem_rowText) h

end Json

end OAuthRedirect
