namespace TunnelitRelay.Data

/-! # Text

The string operations the relay takes from the standard library of its
language and from SQL, with their documented behaviour.
-/

/-- The Unicode `White_Space` property. -/
def isWhiteSpace (c : Char) : Bool :=
  (0x9 ≤ c.toNat && c.toNat ≤ 0xd) || c.toNat == 0x20 || c.toNat == 0x85 || c.toNat == 0xa0 ||
    c.toNat == 0x1680 || (0x2000 ≤ c.toNat && c.toNat ≤ 0x200a) || c.toNat == 0x2028 ||
    c.toNat == 0x2029 || c.toNat == 0x202f || c.toNat == 0x205f || c.toNat == 0x3000

/-- `str::trim`. -/
def trim (text : String) : String :=
  String.ofList ((text.toList.dropWhile isWhiteSpace).reverse.dropWhile isWhiteSpace).reverse

/-- `LOWER` of SQLite: only the ASCII letters are folded.  `str::to_lowercase`
agrees with it on every comparison with an ASCII constant without an `i` or a `k`. -/
def lower (text : String) : String :=
  String.ofList (text.toList.map Char.toLower)

/-- `str::replace('-', "")`. -/
def withoutHyphens (text : String) : String :=
  String.ofList (text.toList.filter (· != '-'))

/-- `str::strip_prefix`, as `starts_with` followed by slicing. -/
def stripPrefix (start text : String) : Option String :=
  if start.toList.isPrefixOf text.toList then some (String.ofList (text.toList.drop start.length))
  else none

/-- A number in decimal, padded with zeros to six digits. -/
def sixDigits (n : Nat) : String :=
  String.ofList (List.replicate (6 - (Nat.toDigits 10 n).length) '0' ++ Nat.toDigits 10 n)

/-- A number in lower-case hexadecimal. -/
def lowerHex (n : Nat) : String := String.ofList (Nat.toDigits 16 n)

end TunnelitRelay.Data
