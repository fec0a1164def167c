namespace ClusterLedger.Text

def utf8Char (c : Char) : List UInt8 :=
  let n := c.toNat
  if n < 0x80 then [.ofNat n]
  else if n < 0x800 then [.ofNat (0xc0 + n / 64), .ofNat (0x80 + n % 64)]
  else if n < 0x10000 then
    [.ofNat (0xe0 + n / 4096), .ofNat (0x80 + n / 64 % 64), .ofNat (0x80 + n % 64)]
  else
    [.ofNat (0xf0 + n / 262144), .ofNat (0x80 + n / 4096 % 64), .ofNat (0x80 + n / 64 % 64),
      .ofNat (0x80 + n % 64)]

def utf8Encode (text : List Char) : List UInt8 := text.flatMap utf8Char

def continuation? (b : UInt8) : Option Nat :=
  if 0x80 ≤ b.toNat ∧ b.toNat < 0xc0 then some (b.toNat - 0x80) else none

/-- A scalar value that needs the number of bytes it was written with. -/
def scalar? (least n : Nat) : Option Char :=
  if least ≤ n ∧ n.isValidChar then some (Char.ofNat n) else none

def utf8Decode? : List UInt8 → Option (List Char)
  | [] => some []
  | a :: rest =>
    let lead := a.toNat
    if lead < 0x80 then (utf8Decode? rest).map (Char.ofNat lead :: ·)
    else if 0xc0 ≤ lead ∧ lead < 0xe0 then
      match rest with
      | b :: rest => do
        let c ← scalar? 0x80 ((lead - 0xc0) * 64 + (← continuation? b))
        (utf8Decode? rest).map (c :: ·)
      | _ => none
    else if 0xe0 ≤ lead ∧ lead < 0xf0 then
      match rest with
      | b :: e :: rest => do
        let c ← scalar? 0x800 (((lead - 0xe0) * 64 + (← continuation? b)) * 64 + (← continuation? e))
        (utf8Decode? rest).map (c :: ·)
      | _ => none
    else if 0xf0 ≤ lead ∧ lead < 0xf8 then
      match rest with
      | b :: e :: f :: rest => do
        let c ← scalar? 0x10000
          ((((lead - 0xf0) * 64 + (← continuation? b)) * 64 + (← continuation? e)) * 64 +
            (← continuation? f))
        (utf8Decode? rest).map (c :: ·)
      | _ => none
    else none

end ClusterLedger.Text
