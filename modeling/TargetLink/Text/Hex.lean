/-!
# Hexadecimal text

Numbers are shown to the user in lowercase hexadecimal behind `0x`. `hex` writes as many digits as
the number needs, `hexPadded` at least a given number of them.
-/

namespace TargetLink

/-- The number in lowercase hexadecimal behind `0x`, without leading zeros. -/
def hex (n : Nat) : String :=
  "0x" ++ String.ofList (Nat.toDigits 16 n)

/-- The number in lowercase hexadecimal behind `0x`, filled with zeros to `width` digits. -/
def hexPadded (width n : Nat) : String :=
  let digits := Nat.toDigits 16 n
  "0x" ++ String.ofList (List.replicate (width - digits.length) '0' ++ digits)

/-- The two hexadecimal digits of each byte, one after the other. -/
def hexBytes (bytes : List UInt8) : String :=
  let digit (n : Nat) : Char := Nat.digitChar n
  String.ofList (bytes.flatMap fun b => [digit (b.toNat / 16), digit (b.toNat % 16)])

end TargetLink
