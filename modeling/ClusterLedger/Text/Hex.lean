namespace ClusterLedger.Text

def hexDigit (n : Nat) : Char :=
  if n < 10 then Char.ofNat (48 + n) else Char.ofNat (87 + n)

def upperHexDigit (n : Nat) : Char :=
  if n < 10 then Char.ofNat (48 + n) else Char.ofNat (55 + n)

def hexWith (digit : Nat → Char) : (width n : Nat) → List Char
  | 0, _ => []
  | width + 1, n => hexWith digit width (n / 16) ++ [digit (n % 16)]

def hex : (width n : Nat) → List Char := hexWith hexDigit
def upperHex : (width n : Nat) → List Char := hexWith upperHexDigit

end ClusterLedger.Text
