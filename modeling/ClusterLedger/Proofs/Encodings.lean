import ClusterLedger.Text.Base64
import ClusterLedger.Text.Utf8
import Mathlib.Data.List.Basic

namespace ClusterLedger.Text

/-! ### Base64 -/

theorem base64Char_spec : ∀ n < 64, base64Value? (base64Char n) = some n ∧ base64Char n ≠ '=' ∧
    (base64Char n).toNat < 128 := by decide

theorem ofNat_eq_byte {n : Nat} {a : UInt8} (same : n = a.toNat) : UInt8.ofNat n = a := by
  rw [same, UInt8.ofNat_toNat]

structure Sextets (bytes : List UInt8) (numbers : List Nat) (padding : Nat) : Prop where
  text : base64Encode bytes = numbers.map base64Char ++ List.replicate padding '='
  small : ∀ n ∈ numbers, n < 64
  packed : base64Pack numbers = bytes
  fits : paddingFits numbers.length padding = true

theorem sextets_one (a : UInt8) : Sextets [a] [a.toNat / 4, a.toNat % 4 * 16] 2 := by
  have byte := a.toNat_lt
  refine ⟨rfl, by simp; omega, ?_, rfl⟩
  simp only [base64Pack]
  rw [ofNat_eq_byte (a := a) (by omega)]

theorem sextets_two (a b : UInt8) :
    Sextets [a, b] [a.toNat / 4, a.toNat % 4 * 16 + b.toNat / 16, b.toNat % 16 * 4] 1 := by
  have byte := a.toNat_lt
  have byte' := b.toNat_lt
  refine ⟨rfl, by simp; omega, ?_, rfl⟩
  simp only [base64Pack]
  rw [ofNat_eq_byte (a := a) (by omega), ofNat_eq_byte (a := b) (by omega)]

theorem paddingFits_block {data padding : Nat} (fits : paddingFits data padding = true) :
    paddingFits (data + 4) padding = true := by
  unfold paddingFits at fits ⊢
  rw [Nat.add_mod_right]
  split at fits
  · rfl
  all_goals exact fits

theorem Sextets.block {rest : List UInt8} {numbers : List Nat} {padding : Nat}
    (later : Sextets rest numbers padding) (a b c : UInt8) :
    Sextets (a :: b :: c :: rest)
      ([a.toNat / 4, a.toNat % 4 * 16 + b.toNat / 16, b.toNat % 16 * 4 + c.toNat / 64, c.toNat % 64] ++ numbers)
      padding := by
  have byte := a.toNat_lt
  have byte' := b.toNat_lt
  have byte'' := c.toNat_lt
  refine ⟨?_, ?_, ?_, paddingFits_block later.fits⟩
  · simp [base64Encode, later.text]
  · simp only [List.cons_append, List.nil_append, List.forall_mem_cons]
    exact ⟨by omega, by omega, by omega, by omega, later.small⟩
  · simp only [List.cons_append, List.nil_append, base64Pack]
    rw [ofNat_eq_byte (a := a) (by omega), ofNat_eq_byte (a := b) (by omega),
      ofNat_eq_byte (a := c) (by omega), later.packed]

theorem exists_sextets (bytes : List UInt8) : ∃ numbers padding, Sextets bytes numbers padding := by
  induction bytes using base64Encode.induct with
  | case1 => exact ⟨[], 0, rfl, by simp, rfl, rfl⟩
  | case2 a => exact ⟨_, _, sextets_one a⟩
  | case3 a b => exact ⟨_, _, sextets_two a b⟩
  | case4 a b c rest ih =>
    obtain ⟨numbers, padding, later⟩ := ih
    exact ⟨_, _, later.block a b c⟩

theorem mapM_base64Value? {numbers : List Nat} (small : ∀ n ∈ numbers, n < 64) :
    (numbers.map base64Char).mapM base64Value? = some numbers := by
  induction numbers with
  | nil => rfl
  | cons n rest ih =>
    simp only [List.forall_mem_cons] at small
    simp [(base64Char_spec n small.1).1, ih small.2]

/-- What is read as Base64: characters for numbers of six bits, which are packed to the bytes, and padding that fits. -/
inductive IsBase64 : List Char → List UInt8 → Prop
  | packed {numbers : List Nat} {padding : Nat} (small : ∀ n ∈ numbers, n < 64)
      (fits : paddingFits numbers.length padding = true) :
      IsBase64 (numbers.map base64Char ++ List.replicate padding '=') (base64Pack numbers)

theorem base64Decode?_of_isBase64 {text : List Char} {bytes : List UInt8} (written : IsBase64 text bytes) :
    base64Decode? text = some bytes := by
  cases written with
  | @packed numbers padding small fits =>
    have letters : ∀ c ∈ numbers.map base64Char, decide (c ≠ '=') = true := by
      simp only [List.forall_mem_map, decide_eq_true_eq]
      intro n member
      exact (base64Char_spec n (small n member)).2.1
    have idle : (List.replicate padding '=').takeWhile (· ≠ '=') = [] := by
      cases padding <;> simp [List.replicate_succ]
    have kept : (List.replicate padding '=').dropWhile (· ≠ '=') = List.replicate padding '=' := by
      cases padding <;> simp [List.replicate_succ]
    unfold base64Decode?
    rw [List.takeWhile_append_of_pos letters, List.dropWhile_append_of_pos letters, idle, kept]
    simp [fits, mapM_base64Value? small]

theorem Sextets.isBase64 {bytes : List UInt8} {numbers : List Nat} {padding : Nat}
    (sextets : Sextets bytes numbers padding) : IsBase64 (base64Encode bytes) bytes := by
  have written := IsBase64.packed sextets.small sextets.fits
  rwa [← sextets.text, sextets.packed] at written

@[simp] theorem base64Decode?_encode (bytes : List UInt8) : base64Decode? (base64Encode bytes) = some bytes := by
  obtain ⟨numbers, padding, sextets⟩ := exists_sextets bytes
  exact base64Decode?_of_isBase64 sextets.isBase64

theorem base64Char_of_value {c : Char} {n : Nat} (value : base64Value? c = some n) :
    n < 64 ∧ base64Char n = c := by
  unfold base64Value? at value
  dsimp only at value
  split at value
  · obtain rfl := Option.some.inj value
    refine ⟨by omega, ?_⟩
    rw [base64Char, if_pos (by omega), Nat.add_sub_of_le (by omega), Char.ofNat_toNat]
  · split at value
    · obtain rfl := Option.some.inj value
      refine ⟨by omega, ?_⟩
      rw [base64Char, if_neg (by omega), if_pos (by omega), Nat.add_sub_of_le (by omega), Char.ofNat_toNat]
    · split at value
      · obtain rfl := Option.some.inj value
        refine ⟨by omega, ?_⟩
        rw [base64Char, if_neg (by omega), if_neg (by omega), if_pos (by omega), Nat.add_sub_cancel,
          Char.ofNat_toNat]
      · split at value
        · obtain rfl := Option.some.inj value
          exact ⟨by omega, by simp_all [base64Char]⟩
        · split at value
          · obtain rfl := Option.some.inj value
            exact ⟨by omega, by simp_all [base64Char]⟩
          · cases value

theorem of_mapM_base64Value? {letters : List Char} {numbers : List Nat}
    (values : letters.mapM base64Value? = some numbers) :
    (∀ n ∈ numbers, n < 64) ∧ numbers.map base64Char = letters := by
  induction letters generalizing numbers with
  | nil =>
    obtain rfl := Option.some.inj values
    simp
  | cons c rest ih =>
    simp only [List.mapM_cons, Option.bind_eq_bind, Option.bind_eq_some_iff, Option.pure_def,
      Option.some.injEq] at values
    obtain ⟨n, value, others, more, rfl⟩ := values
    obtain ⟨small, same⟩ := base64Char_of_value value
    obtain ⟨allSmall, allSame⟩ := ih more
    simp only [List.forall_mem_cons, List.map_cons, same, allSame, and_true]
    exact ⟨small, allSmall⟩

theorem base64Decode?_eq_some_iff {text : List Char} {bytes : List UInt8} :
    base64Decode? text = some bytes ↔ IsBase64 text bytes := by
  refine ⟨fun read => ?_, base64Decode?_of_isBase64⟩
  unfold base64Decode? at read
  dsimp only at read
  split at read
  · next accepted =>
    rw [Bool.and_eq_true, List.all_eq_true] at accepted
    obtain ⟨numbers, values, rfl⟩ := Option.map_eq_some_iff.mp read
    obtain ⟨small, letters⟩ := of_mapM_base64Value? values
    have length : (text.takeWhile (· ≠ '=')).length = numbers.length := by rw [← letters, List.length_map]
    have padding : text.dropWhile (· ≠ '=') = List.replicate (text.dropWhile (· ≠ '=')).length '=' :=
      List.eq_replicate_of_mem fun c member => by simpa using accepted.1 c member
    have whole : numbers.map base64Char ++ List.replicate (text.dropWhile (· ≠ '=')).length '=' = text := by
      rw [letters, ← padding, List.takeWhile_append_dropWhile]
    have written := IsBase64.packed small (length ▸ accepted.2)
    rwa [whole] at written
  · cases read

example : ["", "f", "fo", "foo", "foob"].map (fun s => String.ofList (base64Encode s.toUTF8.data.toList)) =
    ["", "Zg==", "Zm8=", "Zm9v", "Zm9vYg=="] := rfl

theorem IsBase64.ascii {text : List Char} {bytes : List UInt8} (written : IsBase64 text bytes) :
    ∀ c ∈ text, c.toNat < 128 := by
  cases written with
  | packed small _ =>
    intro c member
    rw [List.mem_append, List.mem_map] at member
    cases member with
    | inl letter =>
      obtain ⟨n, among, rfl⟩ := letter
      exact (base64Char_spec n (small n among)).2.2
    | inr pad =>
      rw [List.eq_of_mem_replicate pad]
      decide

theorem ascii_base64Encode (bytes : List UInt8) : ∀ c ∈ base64Encode bytes, c.toNat < 128 := by
  obtain ⟨numbers, padding, sextets⟩ := exists_sextets bytes
  exact sextets.isBase64.ascii

/-! ### UTF-8 -/

theorem isValidChar_toNat (c : Char) : c.toNat.isValidChar := c.valid

theorem toNat_ofNat_add {base n : Nat} (small : base + n < 256) : (UInt8.ofNat (base + n)).toNat = base + n := by
  rw [UInt8.toNat_ofNat']
  exact Nat.mod_eq_of_lt small

theorem scalar?_of_eq {least n : Nat} {c : Char} (same : n = c.toNat) (long : least ≤ c.toNat) :
    scalar? least n = some c := by
  rw [same, scalar?, if_pos ⟨long, isValidChar_toNat c⟩, Char.ofNat_toNat]

theorem continuation?_ofNat (n : Nat) : continuation? (.ofNat (0x80 + n % 64)) = some (n % 64) := by
  unfold continuation?
  rw [toNat_ofNat_add (by omega), if_pos (by omega)]
  exact congrArg some (Nat.add_sub_cancel_left ..)

theorem utf8Decode?_append (c : Char) (rest : List UInt8) :
    utf8Decode? (utf8Char c ++ rest) = (utf8Decode? rest).map (c :: ·) := by
  have valid := isValidChar_toNat c
  unfold Nat.isValidChar at valid
  unfold utf8Char
  dsimp only
  -- One case for each number of bytes; the first byte tells it, and the scalar value needs it.
  split
  · have lead : (UInt8.ofNat c.toNat).toNat = c.toNat := by simp; omega
    rw [List.cons_append, List.nil_append, utf8Decode?.eq_def]
    simp only [lead, Char.ofNat_toNat]
    rw [if_pos (by omega)]
  · split
    · have lead := toNat_ofNat_add (show 0xc0 + c.toNat / 64 < 256 by omega)
      simp only [List.cons_append, List.nil_append]
      rw [utf8Decode?.eq_def]
      simp only [lead, continuation?_ofNat, Nat.add_sub_cancel_left, Option.bind_eq_bind, Option.bind_some]
      rw [if_neg (by omega), if_pos (by omega), scalar?_of_eq (c := c) (by omega) (by omega)]
      rfl
    · split
      · have lead := toNat_ofNat_add (show 0xe0 + c.toNat / 4096 < 256 by omega)
        simp only [List.cons_append, List.nil_append]
        rw [utf8Decode?.eq_def]
        simp only [lead, continuation?_ofNat, Nat.add_sub_cancel_left, Option.bind_eq_bind, Option.bind_some]
        rw [if_neg (by omega), if_neg (by omega), if_pos (by omega),
          scalar?_of_eq (c := c) (by omega) (by omega)]
        rfl
      · have lead := toNat_ofNat_add (show 0xf0 + c.toNat / 262144 < 256 by omega)
        simp only [List.cons_append, List.nil_append]
        rw [utf8Decode?.eq_def]
        simp only [lead, continuation?_ofNat, Nat.add_sub_cancel_left, Option.bind_eq_bind, Option.bind_some]
        rw [if_neg (by omega), if_neg (by omega), if_neg (by omega), if_pos (by omega),
          scalar?_of_eq (c := c) (by omega) (by omega)]
        rfl

@[simp] theorem utf8Encode_cons (c : Char) (rest : List Char) :
    utf8Encode (c :: rest) = utf8Char c ++ utf8Encode rest := List.flatMap_cons

@[simp] theorem utf8Decode?_encode (cs : List Char) : utf8Decode? (utf8Encode cs) = some cs := by
  induction cs with
  | nil => rfl
  | cons c rest ih =>
    rw [utf8Encode_cons, utf8Decode?_append, ih]
    rfl

/-! Only encodings are decoded: the lead tells the number of bytes, which has to be the one that is needed. -/

theorem toNat_ofNat {n : Nat} (valid : n.isValidChar) : (Char.ofNat n).toNat = n := by
  unfold Char.ofNat
  rw [dif_pos valid]
  rfl

theorem continuation?_eq_some {b : UInt8} {payload : Nat} (known : continuation? b = some payload) :
    b.toNat = 0x80 + payload ∧ payload < 64 := by
  unfold continuation? at known
  split at known
  · obtain rfl := Option.some.inj known
    omega
  · cases known

theorem scalar?_eq_some {least n : Nat} {c : Char} (known : scalar? least n = some c) :
    c.toNat = n ∧ least ≤ n := by
  unfold scalar? at known
  split at known
  · next fits =>
    obtain rfl := Option.some.inj known
    exact ⟨toNat_ofNat fits.2, fits.1⟩
  · cases known

theorem utf8Char_one {a : UInt8} (lead : a.toNat < 0x80) : utf8Char (Char.ofNat a.toNat) = [a] := by
  have value : (Char.ofNat a.toNat).toNat = a.toNat := toNat_ofNat (Or.inl (by omega))
  unfold utf8Char
  simp only [value]
  rw [if_pos lead, ofNat_eq_byte rfl]

theorem utf8Char_two {a b : UInt8} {x : Nat} {c : Char} (lead : 0xc0 ≤ a.toNat ∧ a.toNat < 0xe0)
    (second : continuation? b = some x) (known : scalar? 0x80 ((a.toNat - 0xc0) * 64 + x) = some c) :
    utf8Char c = [a, b] := by
  obtain ⟨byte, small⟩ := continuation?_eq_some second
  obtain ⟨value, long⟩ := scalar?_eq_some known
  unfold utf8Char
  simp only [value]
  rw [if_neg (by omega), if_pos (by omega), ofNat_eq_byte (a := a) (by omega), ofNat_eq_byte (a := b) (by omega)]

theorem utf8Char_three {a b e : UInt8} {x y : Nat} {c : Char} (lead : 0xe0 ≤ a.toNat ∧ a.toNat < 0xf0)
    (second : continuation? b = some x) (third : continuation? e = some y)
    (known : scalar? 0x800 (((a.toNat - 0xe0) * 64 + x) * 64 + y) = some c) : utf8Char c = [a, b, e] := by
  obtain ⟨byte, small⟩ := continuation?_eq_some second
  obtain ⟨byte', small'⟩ := continuation?_eq_some third
  obtain ⟨value, long⟩ := scalar?_eq_some known
  unfold utf8Char
  simp only [value]
  rw [if_neg (by omega), if_neg (by omega), if_pos (by omega), ofNat_eq_byte (a := a) (by omega),
    ofNat_eq_byte (a := b) (by omega), ofNat_eq_byte (a := e) (by omega)]

theorem utf8Char_four {a b e f : UInt8} {x y z : Nat} {c : Char} (lead : 0xf0 ≤ a.toNat ∧ a.toNat < 0xf8)
    (second : continuation? b = some x) (third : continuation? e = some y) (fourth : continuation? f = some z)
    (known : scalar? 0x10000 ((((a.toNat - 0xf0) * 64 + x) * 64 + y) * 64 + z) = some c) :
    utf8Char c = [a, b, e, f] := by
  obtain ⟨byte, small⟩ := continuation?_eq_some second
  obtain ⟨byte', small'⟩ := continuation?_eq_some third
  obtain ⟨byte'', small''⟩ := continuation?_eq_some fourth
  obtain ⟨value, long⟩ := scalar?_eq_some known
  unfold utf8Char
  simp only [value]
  rw [if_neg (by omega), if_neg (by omega), if_neg (by omega), ofNat_eq_byte (a := a) (by omega),
    ofNat_eq_byte (a := b) (by omega), ofNat_eq_byte (a := e) (by omega), ofNat_eq_byte (a := f) (by omega)]

theorem utf8Encode_of_decode {bytes : List UInt8} {cs : List Char} (read : utf8Decode? bytes = some cs) :
    utf8Encode cs = bytes := by
  fun_induction utf8Decode? bytes generalizing cs
  case case1 =>
    obtain rfl := Option.some.inj read
    rfl
  case case2 a rest _ short ih =>
    obtain ⟨others, more, rfl⟩ := Option.map_eq_some_iff.mp read
    rw [utf8Encode_cons, utf8Char_one short, ih more]
    rfl
  case case3 a _ _ lead b rest ih =>
    simp only [Option.bind_eq_bind, Option.bind_eq_some_iff, Option.map_eq_some_iff] at read
    obtain ⟨x, second, c, known, others, more, rfl⟩ := read
    rw [utf8Encode_cons, utf8Char_two lead second known, ih more]
    rfl
  case case5 a _ _ _ lead b e rest ih =>
    simp only [Option.bind_eq_bind, Option.bind_eq_some_iff, Option.map_eq_some_iff] at read
    obtain ⟨x, second, y, third, c, known, others, more, rfl⟩ := read
    rw [utf8Encode_cons, utf8Char_three lead second third known, ih more]
    rfl
  case case7 a _ _ _ _ lead b e f rest ih =>
    simp only [Option.bind_eq_bind, Option.bind_eq_some_iff, Option.map_eq_some_iff] at read
    obtain ⟨x, second, y, third, z, fourth, c, known, others, more, rfl⟩ := read
    rw [utf8Encode_cons, utf8Char_four lead second third fourth known, ih more]
    rfl
  -- A character that is cut off, or a byte that no character starts with.
  case case4 | case6 | case8 | case9 => cases read

theorem utf8Decode?_eq_some_iff {bytes : List UInt8} {cs : List Char} :
    utf8Decode? bytes = some cs ↔ bytes = utf8Encode cs :=
  ⟨fun read => (utf8Encode_of_decode read).symm, fun written => written ▸ utf8Decode?_encode cs⟩

theorem utf8Char_eq (c : Char) : utf8Char c = String.utf8EncodeChar c := by
  have valid := isValidChar_toNat c
  unfold Nat.isValidChar at valid
  have short : (c.toNat ≤ 127) = (c.toNat < 0x80) := propext (by omega)
  have middle : (c.toNat ≤ 2047) = (c.toNat < 0x800) := propext (by omega)
  have long : (c.toNat ≤ 65535) = (c.toNat < 0x10000) := propext (by omega)
  have value : c.val.toNat = c.toNat := rfl
  unfold utf8Char String.utf8EncodeChar
  simp only [value, short, middle, long]
  -- The bits of the first byte are not masked where the number of bytes is known.
  split
  · rfl
  · split
    · rw [Nat.mod_eq_of_lt (a := c.toNat / 64) (b := 32) (by omega), Nat.add_comm, Nat.add_comm 128]
    · split
      · rw [Nat.mod_eq_of_lt (a := c.toNat / 4096) (b := 16) (by omega), Nat.add_comm, Nat.add_comm 128,
          Nat.add_comm 128]
      · rw [Nat.mod_eq_of_lt (a := c.toNat / 262144) (b := 8) (by omega), Nat.add_comm, Nat.add_comm 128,
          Nat.add_comm 128, Nat.add_comm 128]

theorem utf8Encode_toList (s : String) : utf8Encode s.toList = s.toUTF8.data.toList := by
  have same : utf8Char = String.utf8EncodeChar := funext utf8Char_eq
  have bytes : s.toUTF8 = (s.toList.flatMap String.utf8EncodeChar).toByteArray := by
    calc s.toUTF8
      _ = (String.ofList s.toList).toByteArray := by rw [String.ofList_toList]; rfl
      _ = _ := String.toByteArray_ofList
  rw [utf8Encode, same, bytes, List.toList_data_toByteArray]
end ClusterLedger.Text
