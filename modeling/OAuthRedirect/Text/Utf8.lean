/-!
# UTF-8

`encode` writes characters as bytes. Reading goes through one step: `scan` takes a lead byte
and the bytes after it and either finds a character or a **maximal invalid subpart**, the
longest run of bytes that begins a character but cannot be continued to one (`Fault` says
why). `decode` stops at the first fault and reports the bytes it covers; `decodeLossy` puts
`U+FFFD` in the place of each.
-/

namespace OAuthRedirect.Text.Utf8

/-! ### Writing -/

/-- The one to four bytes of a character. -/
def encodeChar (c : Char) : List UInt8 :=
  let n := c.toNat
  if n < 0x80 then [UInt8.ofNat n]
  else if n < 0x800 then [UInt8.ofNat (0xC0 + n / 64), UInt8.ofNat (0x80 + n % 64)]
  else if n < 0x10000 then
    [UInt8.ofNat (0xE0 + n / 4096), UInt8.ofNat (0x80 + n / 64 % 64), UInt8.ofNat (0x80 + n % 64)]
  else
    [UInt8.ofNat (0xF0 + n / 262144), UInt8.ofNat (0x80 + n / 4096 % 64),
      UInt8.ofNat (0x80 + n / 64 % 64), UInt8.ofNat (0x80 + n % 64)]

/-- The bytes of a text. -/
def encode (cs : List Char) : List UInt8 :=
  cs.flatMap encodeChar

/-! ### Reading -/

/-- Why some bytes are no character. -/
inductive Fault where
  /-- No character begins with this byte. -/
  | invalidStart
  /-- A byte that cannot come next follows the beginning of a character. -/
  | invalidContinuation
  /-- The input ends inside a character. -/
  | unexpectedEnd
  deriving DecidableEq, Repr

/-- What stands at the front of some bytes: a character, or a fault over `width` bytes. -/
inductive Piece where
  | char (c : Char)
  | invalid (fault : Fault) (width : Nat)
  deriving DecidableEq, Repr

/-- The range that a continuation byte has to lie in. -/
structure Continuation where
  low : Nat := 0x80
  high : Nat := 0xBF

/-- Reads one continuation byte for each range; `value` is what the bytes before them, `width`
in number, contribute to the code point. -/
def continuation (value width : Nat) : List Continuation → List UInt8 → Piece × List UInt8
  | [], rest => (.char (Char.ofNat value), rest)
  | _ :: _, [] => (.invalid .unexpectedEnd width, [])
  | range :: ranges, b :: rest =>
    if range.low ≤ b.toNat ∧ b.toNat ≤ range.high then
      continuation (64 * value + (b.toNat - 0x80)) (width + 1) ranges rest
    else (.invalid .invalidContinuation width, b :: rest)

/-- Reads the character, or the maximal invalid subpart, that begins with `lead`, and gives
the bytes after it. The second byte after `E0`, `ED`, `F0` and `F4` is limited so that long
forms, surrogates and values past `U+10FFFF` are refused. -/
def scan (lead : UInt8) (rest : List UInt8) : Piece × List UInt8 :=
  let n := lead.toNat
  if n < 0x80 then (.char (Char.ofNat n), rest)
  -- Continuation bytes, and the leads `C0` and `C1`, which begin long forms only.
  else if n < 0xC2 then (.invalid .invalidStart 1, rest)
  else if n < 0xE0 then continuation (n - 0xC0) 1 [{}] rest
  else if n = 0xE0 then continuation 0 1 [⟨0xA0, 0xBF⟩, {}] rest
  else if n = 0xED then continuation 0xD 1 [⟨0x80, 0x9F⟩, {}] rest
  else if n < 0xF0 then continuation (n - 0xE0) 1 [{}, {}] rest
  else if n = 0xF0 then continuation 0 1 [⟨0x90, 0xBF⟩, {}, {}] rest
  else if n < 0xF4 then continuation (n - 0xF0) 1 [{}, {}, {}] rest
  else if n = 0xF4 then continuation 4 1 [⟨0x80, 0x8F⟩, {}, {}] rest
  else (.invalid .invalidStart 1, rest)

theorem length_continuation (value width : Nat) (ranges : List Continuation)
    (bytes : List UInt8) : (continuation value width ranges bytes).2.length ≤ bytes.length := by
  fun_induction continuation value width ranges bytes with
  | case1 => simp
  | case2 => simp
  | case3 _ _ _ _ _ _ _ ih => simp only [List.length_cons]; omega
  | case4 => simp

/-- A step of reading never gives bytes back. -/
theorem length_scan (lead : UInt8) (rest : List UInt8) :
    (scan lead rest).2.length ≤ rest.length := by
  simp only [scan]
  repeat' split
  all_goals first | exact Nat.le_refl _ | exact length_continuation ..

/-- Bytes that are not UTF-8: what is wrong with the first maximal invalid subpart, and where
it stands. -/
structure DecodeError where
  fault : Fault
  /-- The first byte of the invalid subpart. -/
  first : UInt8
  position : Nat
  width : Nat
  deriving DecidableEq, Repr

/-- The characters of bytes that stand `position` bytes into the input. -/
def decodeFrom (position : Nat) : List UInt8 → Except DecodeError (List Char)
  | [] => .ok []
  | lead :: rest =>
    match (scan lead rest).1 with
    | .char c =>
      (decodeFrom (position + (encodeChar c).length) (scan lead rest).2).map (c :: ·)
    | .invalid fault width => .error ⟨fault, lead, position, width⟩
termination_by bytes => bytes.length
decreasing_by
  have := length_scan lead rest
  simp only [List.length_cons]
  omega

/-- Reads bytes that have to be UTF-8 throughout. -/
def decode (bytes : List UInt8) : Except DecodeError (List Char) :=
  decodeFrom 0 bytes

/-- Reads bytes with `U+FFFD` in the place of each maximal invalid subpart. -/
def decodeLossy : List UInt8 → List Char
  | [] => []
  | lead :: rest =>
    let c := match (scan lead rest).1 with
      | .char c => c
      | .invalid _ _ => Char.ofNat 0xFFFD
    c :: decodeLossy (scan lead rest).2
termination_by bytes => bytes.length
decreasing_by
  have := length_scan lead rest
  simp only [List.length_cons]
  omega

end OAuthRedirect.Text.Utf8
