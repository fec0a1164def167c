/-!
Base64 text of bytes. Reading is strict about the alphabet and about where padding stands; the bits
that the padding leaves over are not looked at.
-/

namespace ClusterLedger.Text

def base64Char (n : Nat) : Char :=
  if n < 26 then Char.ofNat (65 + n)
  else if n < 52 then Char.ofNat (71 + n)
  else if n < 62 then Char.ofNat (n - 4)
  else if n = 62 then '+' else '/'

def base64Value? (c : Char) : Option Nat :=
  let n := c.toNat
  if 65 ≤ n ∧ n ≤ 90 then some (n - 65)
  else if 97 ≤ n ∧ n ≤ 122 then some (n - 71)
  else if 48 ≤ n ∧ n ≤ 57 then some (n + 4)
  else if c = '+' then some 62
  else if c = '/' then some 63
  else none

/-- Three bytes become four characters; a shorter rest is padded to four. -/
def base64Encode : List UInt8 → List Char
  | [] => []
  | [a] => [base64Char (a.toNat / 4), base64Char (a.toNat % 4 * 16), '=', '=']
  | [a, b] =>
    [base64Char (a.toNat / 4), base64Char (a.toNat % 4 * 16 + b.toNat / 16),
      base64Char (b.toNat % 16 * 4), '=']
  | a :: b :: c :: rest =>
    base64Char (a.toNat / 4) :: base64Char (a.toNat % 4 * 16 + b.toNat / 16) ::
      base64Char (b.toNat % 16 * 4 + c.toNat / 64) :: base64Char (c.toNat % 64) ::
      base64Encode rest

/-- Four characters carry three bytes; of a shorter rest the bits left over are dropped. -/
def base64Pack : List Nat → List UInt8
  | x :: y :: z :: w :: rest =>
    .ofNat (x * 4 + y / 16) :: .ofNat (y % 16 * 16 + z / 4) :: .ofNat (z % 4 * 64 + w) ::
      base64Pack rest
  | [x, y, z] => [.ofNat (x * 4 + y / 16), .ofNat (y % 16 * 16 + z / 4)]
  | [x, y] => [.ofNat (x * 4 + y / 16)]
  | _ => []

/-- A rest of two or three characters is padded to four; padding after full quads is idle. -/
def paddingFits (data padding : Nat) : Bool :=
  match data % 4 with
  | 0 => data ≠ 0 || padding = 0
  | 2 => padding = 2
  | 3 => padding = 1
  | _ => false

def base64Decode? (text : List Char) : Option (List UInt8) :=
  let data := text.takeWhile (· ≠ '=')
  let padding := text.dropWhile (· ≠ '=')
  if padding.all (· = '=') && paddingFits data.length padding.length then
    (data.mapM base64Value?).map base64Pack
  else none

end ClusterLedger.Text
