import Amplifier.Lib.Text

/-!
# Amplifier.Lib.Radix — numerals over an alphabet of bytes

A number written in a base is the list of its digits, most significant first,
each digit the byte of an alphabet at its index. Decimal integers as Rust
prints them, Base58 as `bs58` writes byte strings (each leading zero byte a
leading `1`, then the number the bytes write) and the bytes of a number
themselves are such numerals; `hex::encode` writes two digits a byte.

* `numeral`, `numeralValue` — a number's numeral (empty for zero) and back;
  `numeralValue_numeral` and `numeral_numeralValue` are the round trips, the
  second for numerals without a leading zero, and `leading_split` takes the
  leading zeros off any numeral;
* `decimal` — the decimal numeral of a number (`0` for zero), and the regex
  `0|[1-9][0-9]*` of the numerals it writes;
* `bs58Encode`, `bs58Decode` — Base58 over the Bitcoin alphabet, its round
  trips, and the lengths of its encodings;
* `hexEncode` — `hex::encode`, read back by `hexDecode`.
-/

namespace Amplifier.Radix

/-! ## Numerals -/

section Numerals

variable (alphabet : List UInt8)

/-- The byte of a digit. -/
def digitByte (d : ℕ) : UInt8 := alphabet.getD d 0

/-- The digit of a byte of the alphabet: its index. -/
def digitOf (c : UInt8) : ℕ := alphabet.idxOf c

/-- A number's digits in the alphabet's base, most significant first, as bytes;
none for zero. -/
def numeral (n : ℕ) : List UInt8 :=
  (Nat.digits alphabet.length n).reverse.map (digitByte alphabet)

/-- The number a numeral writes. -/
def numeralValue (cs : List UInt8) : ℕ :=
  Nat.ofDigits alphabet.length (cs.map (digitOf alphabet)).reverse

variable {alphabet}

theorem digitOf_digitByte (hnodup : alphabet.Nodup) {d : ℕ} (hd : d < alphabet.length) :
    digitOf alphabet (digitByte alphabet d) = d := by
  rw [digitByte, List.getD_eq_getElem _ _ hd, digitOf, hnodup.idxOf_getElem]

theorem digitByte_digitOf {c : UInt8} (hc : c ∈ alphabet) :
    digitByte alphabet (digitOf alphabet c) = c := by
  have hlt : alphabet.idxOf c < alphabet.length := List.idxOf_lt_length_iff.mpr hc
  rw [digitOf, digitByte, List.getD_eq_getElem _ _ hlt, List.getElem_idxOf]

theorem digitOf_lt {c : UInt8} (hc : c ∈ alphabet) : digitOf alphabet c < alphabet.length :=
  List.idxOf_lt_length_iff.mpr hc

theorem digitByte_mem {d : ℕ} (hd : d < alphabet.length) : digitByte alphabet d ∈ alphabet := by
  rw [digitByte, List.getD_eq_getElem _ _ hd]
  exact List.getElem_mem hd

theorem mem_numeral (hbase : 1 < alphabet.length) {n : ℕ} {c : UInt8}
    (hc : c ∈ numeral alphabet n) : c ∈ alphabet := by
  obtain ⟨d, hd, rfl⟩ := List.mem_map.mp hc
  exact digitByte_mem (Nat.digits_lt_base hbase (List.mem_reverse.mp hd))

theorem length_numeral (n : ℕ) :
    (numeral alphabet n).length = (Nat.digits alphabet.length n).length := by
  simp [numeral]

@[simp]
theorem numeral_zero : numeral alphabet 0 = [] := by
  simp [numeral]

theorem numeralValue_numeral (hnodup : alphabet.Nodup) (hbase : 1 < alphabet.length) (n : ℕ) :
    numeralValue alphabet (numeral alphabet n) = n := by
  have hdigits : ((Nat.digits alphabet.length n).reverse.map (digitByte alphabet)).map
      (digitOf alphabet) = (Nat.digits alphabet.length n).reverse := by
    rw [List.map_map]
    conv_rhs => rw [← List.map_id (Nat.digits alphabet.length n).reverse]
    refine List.map_congr_left fun d hd => ?_
    exact digitOf_digitByte hnodup (Nat.digits_lt_base hbase (List.mem_reverse.mp hd))
  rw [numeralValue, numeral, hdigits, List.reverse_reverse, Nat.ofDigits_digits]

/-- A numeral without a leading zero is the numeral of the number it writes. -/
theorem numeral_numeralValue (hbase : 1 < alphabet.length) {cs : List UInt8}
    (hcs : ∀ c ∈ cs, c ∈ alphabet) (hlead : cs.head? ≠ some (digitByte alphabet 0)) :
    numeral alphabet (numeralValue alphabet cs) = cs := by
  have hlt : ∀ d ∈ (cs.map (digitOf alphabet)).reverse, d < alphabet.length := by
    intro d hd
    obtain ⟨c, hc, rfl⟩ := List.mem_map.mp (List.mem_reverse.mp hd)
    exact digitOf_lt (hcs c hc)
  -- the last digit, that of the first byte, is not zero
  have hlast : ∀ h : (cs.map (digitOf alphabet)).reverse ≠ [],
      (cs.map (digitOf alphabet)).reverse.getLast h ≠ 0 := by
    intro h hzero
    cases cs with
    | nil => exact h rfl
    | cons c rest =>
        have hc : digitOf alphabet c = 0 := by simpa using hzero
        apply hlead
        rw [List.head?_cons, ← hc, digitByte_digitOf (hcs c List.mem_cons_self)]
  rw [numeralValue, numeral, Nat.digits_ofDigits _ hbase _ hlt hlast, List.reverse_reverse,
    List.map_map]
  conv_rhs => rw [← List.map_id cs]
  exact List.map_congr_left fun c hc => digitByte_digitOf (hcs c hc)

/-- A numeral never starts with a zero. -/
theorem head_numeral (hnodup : alphabet.Nodup) (hbase : 1 < alphabet.length) (n : ℕ) :
    (numeral alphabet n).head? ≠ some (digitByte alphabet 0) := by
  intro h
  by_cases hn : n = 0
  · simp [hn] at h
  · have hne : Nat.digits alphabet.length n ≠ [] := Nat.digits_ne_nil_iff_ne_zero.mpr hn
    have hlast := Nat.getLast_digit_ne_zero alphabet.length hn
    rw [numeral, List.head?_map, List.head?_reverse, List.getLast?_eq_some_getLast hne,
      Option.map_some, Option.some.injEq] at h
    have hdigit := congrArg (digitOf alphabet) h
    rw [digitOf_digitByte hnodup (Nat.digits_lt_base hbase (List.getLast_mem hne)),
      digitOf_digitByte hnodup (by omega)] at hdigit
    exact hlast hdigit

/-- Leading zeros write nothing. -/
theorem numeralValue_replicate_append (hnodup : alphabet.Nodup) (hbase : 1 < alphabet.length)
    (k : ℕ) (cs : List UInt8) :
    numeralValue alphabet (List.replicate k (digitByte alphabet 0) ++ cs) =
      numeralValue alphabet cs := by
  have hzero : digitOf alphabet (digitByte alphabet 0) = 0 := digitOf_digitByte hnodup (by omega)
  simp only [numeralValue, List.map_append, List.map_replicate, hzero, List.reverse_append,
    List.reverse_replicate, Nat.ofDigits_append_replicate_zero]

end Numerals

/-! ## Leading runs -/

section Leading

variable {α : Type} [DecidableEq α]

/-- A list is its leading run of some value, then a rest that does not start with it. -/
theorem leading_split (z : α) : ∀ cs : List α,
    cs = List.replicate (cs.takeWhile (· == z)).length z ++ cs.dropWhile (· == z) ∧
      (cs.dropWhile (· == z)).head? ≠ some z
  | [] => by simp
  | c :: cs => by
      by_cases hc : c = z
      · subst hc
        obtain ⟨hsplit, hhead⟩ := leading_split c cs
        simp only [List.takeWhile_cons, List.dropWhile_cons, beq_self_eq_true, if_true,
          List.length_cons, List.replicate_succ, List.cons_append]
        exact ⟨congrArg (c :: ·) hsplit, hhead⟩
      · have hne : (c == z) = false := by simpa using hc
        simp [hne, hc]

/-- The leading run of a list that starts with a run and goes on otherwise. -/
theorem takeWhile_replicate_append {z : α} {rest : List α} (hhead : rest.head? ≠ some z)
    (k : ℕ) : (List.replicate k z ++ rest).takeWhile (· == z) = List.replicate k z := by
  induction k with
  | zero =>
      cases rest with
      | nil => rfl
      | cons c rest =>
          have hne : (c == z) = false := by simpa using hhead
          simp [hne]
  | succ k ih =>
      simp only [List.replicate_succ, List.cons_append, List.takeWhile_cons, beq_self_eq_true,
        if_true, ih]

end Leading

/-! ## Padded numerals -/

section Padded

variable {alphabet : List UInt8}

/-- Zeros in front of a numeral, as a width and the `0` flag of a format string
put them, write nothing. -/
theorem numeralValue_leftpad (hnodup : alphabet.Nodup) (hbase : 1 < alphabet.length) (w n : ℕ) :
    numeralValue alphabet (List.leftpad w (digitByte alphabet 0) (numeral alphabet n)) = n := by
  rw [List.leftpad, numeralValue_replicate_append hnodup hbase, numeralValue_numeral hnodup hbase]

/-- Every numeral, leading zeros and all, is the numeral of the number it writes
padded to its own width. -/
theorem leftpad_numeral_numeralValue (hnodup : alphabet.Nodup) (hbase : 1 < alphabet.length)
    {cs : List UInt8} (hcs : ∀ c ∈ cs, c ∈ alphabet) :
    List.leftpad cs.length (digitByte alphabet 0) (numeral alphabet (numeralValue alphabet cs)) =
      cs := by
  obtain ⟨hsplit, hhead⟩ := leading_split (digitByte alphabet 0) cs
  set k := (cs.takeWhile (· == digitByte alphabet 0)).length
  set rest := cs.dropWhile (· == digitByte alphabet 0)
  have hrest : ∀ c ∈ rest, c ∈ alphabet := fun c hc => hcs c ((List.dropWhile_suffix _).subset hc)
  have hvalue : numeralValue alphabet cs = numeralValue alphabet rest := by
    conv_lhs => rw [hsplit]
    exact numeralValue_replicate_append hnodup hbase k rest
  have hlength : cs.length = k + rest.length := by
    conv_lhs => rw [hsplit]
    rw [List.length_append, List.length_replicate]
  rw [hvalue, numeral_numeralValue hbase hrest hhead, List.leftpad, hlength, Nat.add_sub_cancel]
  exact hsplit.symm

end Padded

/-! ## Decimal -/

/-- The digits `0` to `9`. -/
def decimalAlphabet : List UInt8 := [48, 49, 50, 51, 52, 53, 54, 55, 56, 57]

theorem decimalAlphabet_nodup : decimalAlphabet.Nodup := by decide

theorem one_lt_length_decimalAlphabet : 1 < decimalAlphabet.length := by decide

theorem mem_decimalAlphabet (c : UInt8) : c ∈ decimalAlphabet ↔ 48 ≤ c ∧ c ≤ 57 := by
  revert c
  set_option maxRecDepth 4000 in decide

/-- `Display` of an unsigned integer: its decimal numeral, `0` for zero. -/
def decimal (n : ℕ) : List UInt8 := if n = 0 then [48] else numeral decimalAlphabet n

/-- The regex `[1-9][0-9]*`. -/
def isPositiveDecimal : List UInt8 → Bool
  | [] => false
  | c :: cs => decide (49 ≤ c ∧ c ≤ 57) && cs.all fun c => decide (48 ≤ c ∧ c ≤ 57)

/-- The regex `0|[1-9][0-9]*`: a decimal numeral without a leading zero. -/
def isCanonicalDecimal (cs : List UInt8) : Bool := cs == [48] || isPositiveDecimal cs

/-- `str::parse` of an unsigned integer of `bits` bits, on digits (the regexes
check the digits first): the number they write, unless it overflows. -/
def parseDecimal (bits : ℕ) (cs : List UInt8) : Option ℕ :=
  if numeralValue decimalAlphabet cs < 2 ^ bits then some (numeralValue decimalAlphabet cs)
  else none

theorem numeralValue_decimal (n : ℕ) : numeralValue decimalAlphabet (decimal n) = n := by
  unfold decimal
  split_ifs with hn
  · subst hn
    decide
  · exact numeralValue_numeral decimalAlphabet_nodup one_lt_length_decimalAlphabet n

theorem isPositiveDecimal_iff {cs : List UInt8} :
    isPositiveDecimal cs = true ↔ (∀ c ∈ cs, c ∈ decimalAlphabet) ∧ cs ≠ [] ∧
      cs.head? ≠ some (digitByte decimalAlphabet 0) := by
  cases cs with
  | nil => simp [isPositiveDecimal]
  | cons c cs =>
      have hzero : digitByte decimalAlphabet 0 = 48 := rfl
      have hfirst : ∀ c : UInt8, (49 ≤ c ∧ c ≤ 57) ↔ (48 ≤ c ∧ c ≤ 57) ∧ c ≠ 48 := by
        set_option maxRecDepth 4000 in decide
      simp only [isPositiveDecimal, Bool.and_eq_true, decide_eq_true_eq, List.all_eq_true, hfirst,
        List.forall_mem_cons, mem_decimalAlphabet, List.head?_cons, hzero, ne_eq,
        Option.some.injEq, reduceCtorEq, not_false_eq_true, true_and]
      constructor
      · rintro ⟨⟨hc, hne⟩, hcs⟩
        exact ⟨⟨hc, hcs⟩, hne⟩
      · rintro ⟨⟨hc, hcs⟩, hne⟩
        exact ⟨⟨hc, hne⟩, hcs⟩

/-- A positive number prints without a leading zero. -/
theorem isPositiveDecimal_decimal {n : ℕ} (hn : n ≠ 0) : isPositiveDecimal (decimal n) = true := by
  rw [decimal, if_neg hn, isPositiveDecimal_iff]
  refine ⟨fun c hc => mem_numeral one_lt_length_decimalAlphabet hc, ?_,
    head_numeral decimalAlphabet_nodup one_lt_length_decimalAlphabet n⟩
  rw [← List.length_pos_iff, length_numeral]
  exact List.length_pos_iff.mpr (Nat.digits_ne_nil_iff_ne_zero.mpr hn)

theorem isCanonicalDecimal_decimal (n : ℕ) : isCanonicalDecimal (decimal n) = true := by
  by_cases hn : n = 0
  · subst hn
    decide
  · simp [isCanonicalDecimal, isPositiveDecimal_decimal hn]

theorem mem_decimal {n : ℕ} {c : UInt8} (hc : c ∈ decimal n) : c ∈ decimalAlphabet := by
  unfold decimal at hc
  split_ifs at hc
  · rw [List.mem_singleton.mp hc]
    decide
  · exact mem_numeral one_lt_length_decimalAlphabet hc

/-- A numeral without a leading zero prints back as itself. -/
theorem decimal_numeralValue {cs : List UInt8} (hcs : isCanonicalDecimal cs = true) :
    decimal (numeralValue decimalAlphabet cs) = cs := by
  rcases Bool.or_eq_true_iff.mp hcs with hzero | hpos
  · rw [beq_iff_eq.mp hzero]
    decide
  · obtain ⟨hdigits, hne, hlead⟩ := isPositiveDecimal_iff.mp hpos
    have hnum := numeral_numeralValue one_lt_length_decimalAlphabet hdigits hlead
    have hvalue : numeralValue decimalAlphabet cs ≠ 0 := by
      intro h
      rw [h, numeral_zero] at hnum
      exact hne hnum.symm
    rw [decimal, if_neg hvalue, hnum]

theorem numeralValue_pos {cs : List UInt8} (hcs : isPositiveDecimal cs = true) :
    0 < numeralValue decimalAlphabet cs := by
  obtain ⟨hdigits, hne, hlead⟩ := isPositiveDecimal_iff.mp hcs
  have hnum := numeral_numeralValue one_lt_length_decimalAlphabet hdigits hlead
  by_contra h
  rw [Nat.not_lt, Nat.le_zero] at h
  rw [h, numeral_zero] at hnum
  exact hne hnum.symm

theorem parseDecimal_decimal {bits n : ℕ} (hn : n < 2 ^ bits) :
    parseDecimal bits (decimal n) = some n := by
  rw [parseDecimal, numeralValue_decimal, if_pos hn]

/-! ## Bytes as numerals -/

/-- The 256 bytes in order: a byte string is the base-256 numeral of its value. -/
def byteAlphabet : List UInt8 := (List.range 256).map Nat.toUInt8

theorem length_byteAlphabet : byteAlphabet.length = 256 := by
  simp [byteAlphabet]

theorem lt_length_byteAlphabet (c : UInt8) : c.toNat < byteAlphabet.length := by
  rw [length_byteAlphabet]
  exact c.toNat_lt

theorem getElem_byteAlphabet (c : UInt8) (h : c.toNat < byteAlphabet.length) :
    byteAlphabet[c.toNat] = c := by
  simp [byteAlphabet]

theorem byteAlphabet_nodup : byteAlphabet.Nodup := by
  refine List.Nodup.map_on ?_ List.nodup_range
  intro a ha b hb hab
  have ha' : a < 256 := List.mem_range.mp ha
  have hb' : b < 256 := List.mem_range.mp hb
  have hval := congrArg UInt8.toNat hab
  simpa [Nat.mod_eq_of_lt ha', Nat.mod_eq_of_lt hb'] using hval

theorem one_lt_length_byteAlphabet : 1 < byteAlphabet.length := by
  rw [length_byteAlphabet]
  decide

theorem mem_byteAlphabet (c : UInt8) : c ∈ byteAlphabet := by
  rw [← getElem_byteAlphabet c (lt_length_byteAlphabet c)]
  exact List.getElem_mem _

theorem digitOf_byteAlphabet (c : UInt8) : digitOf byteAlphabet c = c.toNat := by
  have h := byteAlphabet_nodup.idxOf_getElem c.toNat (lt_length_byteAlphabet c)
  rwa [getElem_byteAlphabet c (lt_length_byteAlphabet c)] at h

theorem digitByte_byteAlphabet_zero : digitByte byteAlphabet 0 = 0 := rfl

/-- The value of a byte string is the number its bytes write in base 256. -/
theorem numeralValue_byteAlphabet (bytes : List UInt8) :
    numeralValue byteAlphabet bytes = beValue bytes := by
  have hdigits : bytes.map (digitOf byteAlphabet) = bytes.map UInt8.toNat :=
    List.map_congr_left fun c _ => digitOf_byteAlphabet c
  rw [numeralValue, hdigits, length_byteAlphabet, beValue]

/-- A byte string that starts with a nonzero byte is worth at least that byte's
place. -/
theorem pow_le_beValue {c : UInt8} (hc : c ≠ 0) (rest : List UInt8) :
    256 ^ rest.length ≤ beValue (c :: rest) := by
  have hpos : 1 ≤ c.toNat := by
    rcases Nat.eq_zero_or_pos c.toNat with h | h
    · exact absurd (UInt8.toNat_inj.mp (by simpa using h)) hc
    · exact h
  rw [beValue_cons]
  calc 256 ^ rest.length = 256 ^ rest.length * 1 := (Nat.mul_one _).symm
    _ ≤ 256 ^ rest.length * c.toNat := Nat.mul_le_mul_left _ hpos
    _ ≤ beValue rest + 256 ^ rest.length * c.toNat := Nat.le_add_left _ _

/-! ## Base58 -/

/-- The Bitcoin alphabet of `bs58`. -/
def base58Alphabet : List UInt8 :=
  "123456789ABCDEFGHJKLMNPQRSTUVWXYZabcdefghijkmnopqrstuvwxyz".toList.map Char.toUInt8

theorem base58Alphabet_nodup : base58Alphabet.Nodup := by decide

theorem length_base58Alphabet : base58Alphabet.length = 58 := by decide

theorem one_lt_length_base58Alphabet : 1 < base58Alphabet.length := by
  rw [length_base58Alphabet]
  decide

/-- `1`, the zero of Base58. -/
theorem digitByte_base58Alphabet_zero : digitByte base58Alphabet 0 = 49 := by decide

/-- `bs58::encode(..).into_string()`: a `1` for each leading zero byte, then the
Base58 numeral of the number the bytes write. -/
def bs58Encode (bytes : List UInt8) : List UInt8 :=
  List.replicate (bytes.takeWhile (· == 0)).length (digitByte base58Alphabet 0) ++
    numeral base58Alphabet (beValue bytes)

/-- `bs58::decode(..).into_vec()`: a zero byte for each leading `1`, then the
bytes of the number the rest writes; a byte outside the alphabet is an error. -/
def bs58Decode (s : List UInt8) : Option (List UInt8) :=
  if s.all (fun c => decide (c ∈ base58Alphabet)) then
    some (List.replicate (s.takeWhile (· == digitByte base58Alphabet 0)).length 0 ++
      numeral byteAlphabet (numeralValue base58Alphabet s))
  else none

theorem mem_bs58Encode {c : UInt8} {bytes : List UInt8} (hc : c ∈ bs58Encode bytes) :
    c ∈ base58Alphabet := by
  rcases List.mem_append.mp hc with hzero | hdigit
  · rw [List.eq_of_mem_replicate hzero]
    exact digitByte_mem (by rw [length_base58Alphabet]; decide)
  · exact mem_numeral one_lt_length_base58Alphabet hdigit

/-- The bytes after the leading zeros write the same number. -/
theorem beValue_dropWhile (bytes : List UInt8) :
    beValue bytes = numeralValue byteAlphabet (bytes.dropWhile (· == 0)) := by
  obtain ⟨hsplit, -⟩ := leading_split (0 : UInt8) bytes
  conv_lhs => rw [hsplit]
  rw [← numeralValue_byteAlphabet, ← digitByte_byteAlphabet_zero,
    numeralValue_replicate_append byteAlphabet_nodup one_lt_length_byteAlphabet]

theorem bs58Decode_bs58Encode (bytes : List UInt8) : bs58Decode (bs58Encode bytes) = some bytes := by
  obtain ⟨hsplit, hhead⟩ := leading_split (0 : UInt8) bytes
  have hall : (bs58Encode bytes).all (fun c => decide (c ∈ base58Alphabet)) = true :=
    List.all_eq_true.mpr fun c hc => decide_eq_true (mem_bs58Encode hc)
  -- as many leading `1`s as leading zero bytes, and then the same number
  have hones : ((bs58Encode bytes).takeWhile (· == digitByte base58Alphabet 0)).length =
      (bytes.takeWhile (· == 0)).length := by
    rw [bs58Encode, takeWhile_replicate_append
      (head_numeral base58Alphabet_nodup one_lt_length_base58Alphabet _), List.length_replicate]
  have hvalue : numeralValue base58Alphabet (bs58Encode bytes) = beValue bytes := by
    rw [bs58Encode, numeralValue_replicate_append base58Alphabet_nodup
      one_lt_length_base58Alphabet, numeralValue_numeral base58Alphabet_nodup
      one_lt_length_base58Alphabet]
  have hrest : numeral byteAlphabet (beValue bytes) = bytes.dropWhile (· == 0) := by
    rw [beValue_dropWhile]
    exact numeral_numeralValue one_lt_length_byteAlphabet (fun c _ => mem_byteAlphabet c) hhead
  rw [bs58Decode, if_pos hall, hones, hvalue, hrest, ← hsplit]

theorem bs58Encode_bs58Decode {s bytes : List UInt8} (h : bs58Decode s = some bytes) :
    bs58Encode bytes = s := by
  unfold bs58Decode at h
  split_ifs at h with hall
  obtain rfl := Option.some.inj h
  have hdigits : ∀ c ∈ s, c ∈ base58Alphabet := by simpa using hall
  obtain ⟨hsplit, hhead⟩ := leading_split (digitByte base58Alphabet 0) s
  set rest := s.dropWhile (· == digitByte base58Alphabet 0)
  have hrest_digits : ∀ c ∈ rest, c ∈ base58Alphabet :=
    fun c hc => hdigits c ((List.dropWhile_suffix _).subset hc)
  -- the leading `1`s write nothing
  have hvalue : numeralValue base58Alphabet s = numeralValue base58Alphabet rest := by
    conv_lhs => rw [hsplit]
    exact numeralValue_replicate_append base58Alphabet_nodup one_lt_length_base58Alphabet _ _
  have hzeros := takeWhile_replicate_append
    (head_numeral byteAlphabet_nodup one_lt_length_byteAlphabet
      (numeralValue base58Alphabet s)) (s.takeWhile (· == digitByte base58Alphabet 0)).length
  rw [digitByte_byteAlphabet_zero] at hzeros
  have hbytes : beValue (List.replicate (s.takeWhile (· == digitByte base58Alphabet 0)).length 0 ++
      numeral byteAlphabet (numeralValue base58Alphabet s)) = numeralValue base58Alphabet s := by
    rw [← numeralValue_byteAlphabet, ← digitByte_byteAlphabet_zero,
      numeralValue_replicate_append byteAlphabet_nodup one_lt_length_byteAlphabet,
      numeralValue_numeral byteAlphabet_nodup one_lt_length_byteAlphabet]
  rw [bs58Encode, hzeros, List.length_replicate, hbytes, hvalue,
    numeral_numeralValue one_lt_length_base58Alphabet hrest_digits hhead]
  exact hsplit.symm

/-- The length of an encoding: the leading `1`s, then the digits. -/
theorem length_bs58Encode (bytes : List UInt8) :
    (bs58Encode bytes).length =
      (bytes.takeWhile (· == 0)).length + (Nat.digits 58 (beValue bytes)).length := by
  rw [bs58Encode, List.length_append, List.length_replicate, length_numeral,
    length_base58Alphabet]

/-- An encoding is at least as long as the bytes: a digit of Base58 holds less
than a byte. -/
theorem length_le_length_bs58Encode (bytes : List UInt8) :
    bytes.length ≤ (bs58Encode bytes).length := by
  obtain ⟨hsplit, hhead⟩ := leading_split (0 : UInt8) bytes
  have hlength : bytes.length = (bytes.takeWhile (· == 0)).length +
      (bytes.dropWhile (· == 0)).length := by
    conv_lhs => rw [hsplit]
    rw [List.length_append, List.length_replicate]
  rw [length_bs58Encode, hlength]
  cases hrest : bytes.dropWhile (· == 0) with
  | nil => simp
  | cons c rest =>
      have hc : c ≠ 0 := by
        intro h
        rw [hrest, h] at hhead
        exact hhead rfl
      -- the rest's value needs as many base-58 digits as it has bytes
      have hvalue : beValue bytes = beValue (c :: rest) := by
        rw [beValue_dropWhile, hrest, numeralValue_byteAlphabet]
      have hlow := pow_le_beValue hc rest
      have hhigh := Nat.lt_base_pow_length_digits (b := 58) (m := beValue bytes) (by decide)
      have hpow : 58 ^ rest.length < 58 ^ (Nat.digits 58 (beValue bytes)).length :=
        calc 58 ^ rest.length ≤ 256 ^ rest.length := Nat.pow_le_pow_left (by decide) _
          _ ≤ beValue bytes := hvalue ▸ hlow
          _ < 58 ^ (Nat.digits 58 (beValue bytes)).length := hhigh
      have hlt := (Nat.pow_lt_pow_iff_right (by decide)).mp hpow
      simp only [List.length_cons]
      omega

/-- An encoding of `n` bytes has at most `n + e` digits when `58 ^ (n + e)` holds
every value of `n` bytes. -/
theorem length_bs58Encode_le {n e : ℕ} (hpow : 256 ^ n ≤ 58 ^ (n + e)) {bytes : List UInt8}
    (hlen : bytes.length = n) : (bs58Encode bytes).length ≤ n + e := by
  obtain ⟨hsplit, -⟩ := leading_split (0 : UInt8) bytes
  set k := (bytes.takeWhile (· == 0)).length
  set m := (bytes.dropWhile (· == 0)).length
  have hlength : n = k + m := by
    rw [← hlen]
    conv_lhs => rw [hsplit]
    rw [List.length_append, List.length_replicate]
  -- the bytes after the leading zeros are worth less than `58 ^ (m + e)`
  have hcancel : 256 ^ m ≤ 58 ^ (m + e) := by
    have hsplit_pow : 256 ^ k * 256 ^ m ≤ 256 ^ k * 58 ^ (m + e) :=
      calc 256 ^ k * 256 ^ m = 256 ^ n := by rw [hlength, pow_add]
        _ ≤ 58 ^ (n + e) := hpow
        _ = 58 ^ k * 58 ^ (m + e) := by rw [hlength, ← pow_add]; ring_nf
        _ ≤ 256 ^ k * 58 ^ (m + e) := Nat.mul_le_mul_right _ (Nat.pow_le_pow_left (by decide) _)
    exact Nat.le_of_mul_le_mul_left hsplit_pow (by positivity)
  have hvalue : beValue bytes < 58 ^ (m + e) := by
    rw [beValue_dropWhile, numeralValue_byteAlphabet]
    exact lt_of_lt_of_le (beValue_lt _) hcancel
  have hdigits := (Nat.digits_length_le_iff (b := 58) (k := m + e) (by decide) _).mpr hvalue
  rw [length_bs58Encode]
  omega

/-! ## Lower-case hexadecimal -/

/-- The lower-case hexadecimal digits. -/
def hexAlphabet : List UInt8 := "0123456789abcdef".toList.map Char.toUInt8

theorem hexAlphabet_nodup : hexAlphabet.Nodup := by decide

theorem length_hexAlphabet : hexAlphabet.length = 16 := rfl

theorem one_lt_length_hexAlphabet : 1 < hexAlphabet.length := by
  rw [length_hexAlphabet]
  decide

/-- `0`, the zero of hexadecimal. -/
theorem digitByte_hexAlphabet_zero : digitByte hexAlphabet 0 = 48 := by decide

/-- `hex::encode`: two lower-case digits a byte, the high one first. -/
def hexEncode (bytes : List UInt8) : List UInt8 :=
  bytes.flatMap fun b => [digitByte hexAlphabet (b.toNat / 16), digitByte hexAlphabet (b.toNat % 16)]

@[simp]
theorem length_hexEncode (bytes : List UInt8) : (hexEncode bytes).length = 2 * bytes.length := by
  induction bytes with
  | nil => rfl
  | cons b bytes ih =>
      simp only [hexEncode, List.flatMap_cons, List.length_append, List.length_cons,
        List.length_nil] at ih ⊢
      omega

theorem mem_hexEncode {c : UInt8} {bytes : List UInt8} (hc : c ∈ hexEncode bytes) :
    c ∈ hexAlphabet := by
  obtain ⟨b, -, hb⟩ := List.mem_flatMap.mp hc
  rcases List.mem_pair.mp hb with rfl | rfl
  · exact digitByte_mem (by rw [length_hexAlphabet]; have := UInt8.toNat_lt b; omega)
  · exact digitByte_mem (by rw [length_hexAlphabet]; omega)

/-- Each byte's two digits decode to it: checked over every byte. -/
theorem hexVal_digits (b : UInt8) (i : ℕ) :
    hexVal (digitByte hexAlphabet (b.toNat / 16)) (2 * i) = .ok (b.toNat / 16).toUInt8 ∧
      hexVal (digitByte hexAlphabet (b.toNat % 16)) (2 * i + 1) = .ok (b.toNat % 16).toUInt8 ∧
      ((b.toNat / 16).toUInt8 <<< 4 ||| (b.toNat % 16).toUInt8) = b := by
  have hdigits : ∀ b : UInt8,
      nibble (digitByte hexAlphabet (b.toNat / 16)) = some (b.toNat / 16).toUInt8 ∧
        nibble (digitByte hexAlphabet (b.toNat % 16)) = some (b.toNat % 16).toUInt8 ∧
        ((b.toNat / 16).toUInt8 <<< 4 ||| (b.toNat % 16).toUInt8) = b := by
    set_option maxRecDepth 4000 in decide
  obtain ⟨hhi, hlo, hbyte⟩ := hdigits b
  exact ⟨hexVal_eq_ok.mpr hhi, hexVal_eq_ok.mpr hlo, hbyte⟩

theorem decodePairs_hexEncode : ∀ (i : ℕ) (bytes : List UInt8),
    decodePairs i (hexEncode bytes) = .ok bytes
  | _, [] => rfl
  | i, b :: bytes => by
      obtain ⟨hhi, hlo, hbyte⟩ := hexVal_digits b i
      have hrest := decodePairs_hexEncode (i + 1) bytes
      rw [hexEncode, List.flatMap_cons] at *
      exact decodePairs_cons_cons_eq_ok.mpr ⟨_, _, bytes, hhi, hlo, hrest, by rw [hbyte]⟩

/-- `hex::decode` reads `hex::encode` back. -/
theorem hexDecode_hexEncode (bytes : List UInt8) : hexDecode (hexEncode bytes) = .ok bytes := by
  rw [hexDecode, length_hexEncode, if_neg (by omega)]
  exact decodePairs_hexEncode 0 bytes

/-- Two lower-case digits are the digits of the byte they decode to: checked
over every pair. -/
theorem hexEncode_pair {hi lo h l : UInt8} (hhi : hi ∈ hexAlphabet) (hlo : lo ∈ hexAlphabet)
    (hh : nibble hi = some h) (hl : nibble lo = some l) :
    hexEncode [h <<< 4 ||| l] = [hi, lo] := by
  have hpairs : ∀ hi ∈ hexAlphabet, ∀ lo ∈ hexAlphabet,
      hexEncode [(nibble hi).getD 0 <<< 4 ||| (nibble lo).getD 0] = [hi, lo] := by
    set_option maxRecDepth 4000 in decide
  have hpair := hpairs hi hhi lo hlo
  rwa [hh, hl, Option.getD_some, Option.getD_some] at hpair

theorem hexEncode_of_decodePairs {i : ℕ} {hex bytes : List UInt8}
    (hhex : ∀ c ∈ hex, c ∈ hexAlphabet) (h : decodePairs i hex = .ok bytes) :
    hexEncode bytes = hex := by
  induction hex using List.twoStepInduction generalizing i bytes with
  | nil =>
      simp only [decodePairs, Except.ok.injEq] at h
      subst h
      rfl
  | singleton c => simp [decodePairs] at h
  | cons_cons hi lo rest ih _ =>
      obtain ⟨vh, vl, tail, hh, hl, hrest, rfl⟩ := decodePairs_cons_cons_eq_ok.mp h
      have htail := ih (fun c hc => hhex c (List.mem_cons_of_mem _ (List.mem_cons_of_mem _ hc)))
        hrest
      have hpair := hexEncode_pair (hhex hi List.mem_cons_self)
        (hhex lo (List.mem_cons_of_mem _ List.mem_cons_self)) (hexVal_eq_ok.mp hh)
        (hexVal_eq_ok.mp hl)
      rw [show (vh <<< 4 ||| vl) :: tail = [vh <<< 4 ||| vl] ++ tail from rfl, hexEncode,
        List.flatMap_append, ← hexEncode, ← hexEncode, hpair, htail]
      rfl

/-- Lower-case digits that `hex::decode` accepts are `hex::encode` of what it returns. -/
theorem hexEncode_of_hexDecode {hex bytes : List UInt8} (hhex : ∀ c ∈ hex, c ∈ hexAlphabet)
    (h : hexDecode hex = .ok bytes) : hexEncode bytes = hex := by
  unfold hexDecode at h
  split_ifs at h
  exact hexEncode_of_decodePairs hhex h

/-- The value of lower-case digits, as `hex` reads them, is the number they write. -/
theorem hexValue_eq_numeralValue {digits : List UInt8} (hdigits : ∀ c ∈ digits, c ∈ hexAlphabet) :
    hexValue digits = numeralValue hexAlphabet digits := by
  have hvalue : ∀ c ∈ hexAlphabet, hexDigitValue c = digitOf hexAlphabet c := by
    set_option maxRecDepth 4000 in decide
  have hmap : digits.map hexDigitValue = digits.map (digitOf hexAlphabet) :=
    List.map_congr_left fun c hc => hvalue c (hdigits c hc)
  rw [hexValue, numeralValue, hmap, length_hexAlphabet]

/-- `{:x}`: the lower-case hexadecimal numeral of a number, `0` for zero. -/
def lowerHex (n : ℕ) : List UInt8 := if n = 0 then [48] else numeral hexAlphabet n

/-- Padded to a width, the `0` of zero and no digit at all are alike. -/
theorem leftpad_lowerHex {w : ℕ} (hw : 0 < w) (n : ℕ) :
    List.leftpad w 48 (lowerHex n) = List.leftpad w 48 (numeral hexAlphabet n) := by
  unfold lowerHex
  split_ifs with hn
  · obtain ⟨w, rfl⟩ := Nat.exists_eq_add_of_lt hw
    simp [hn, List.leftpad, List.replicate_succ']
  · rfl

end Amplifier.Radix
