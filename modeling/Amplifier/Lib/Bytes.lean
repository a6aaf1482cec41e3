import Amplifier.Lib.Select

/-!
# Amplifier.Lib.Bytes — fixed-width integers and hex strings as bytes

Two encodings that hash preimages and identifiers are built from:

* `beBytes width n` — the `width` bytes of `n` in big-endian order, as Rust's
  `to_be_bytes` lays out an unsigned integer of that width;
* `encodeHex` — the lower-case hexadecimal text of a byte string, two digits a
  byte, as the `hex` crate's `encode` writes it;
* `compareBytes` — the order of byte strings, which is the lexicographic order
  of their byte values (`ordersBy_compareBytes`).
-/

namespace Amplifier

/-- The `width` bytes of `n`, most significant first. -/
def beBytes (width n : ℕ) : ByteArray :=
  ⟨((List.range width).reverse.map fun i => (n / 256 ^ i % 256).toUInt8).toArray⟩

/-- The lower-case hexadecimal digit of `d < 16`. -/
def hexDigit (d : ℕ) : Char :=
  if d < 10 then Char.ofNat (48 + d) else Char.ofNat (87 + d)

/-- The lower-case hexadecimal text of a byte string, two digits a byte. -/
def encodeHex (bytes : List UInt8) : String :=
  String.ofList (bytes.flatMap fun b => [hexDigit (b.toNat / 16), hexDigit (b.toNat % 16)])

@[simp]
theorem size_beBytes (width n : ℕ) : (beBytes width n).size = width := by
  simp [beBytes, ByteArray.size]

/-- `[u8]::cmp`: the first byte that differs decides, and a proper prefix is
smaller. -/
def compareBytes : List UInt8 → List UInt8 → Ordering
  | [], [] => .eq
  | [], _ :: _ => .lt
  | _ :: _, [] => .gt
  | a :: as, b :: bs => (compare a.toNat b.toNat).then (compareBytes as bs)

/-- The values of the bytes, ordered as lists: lexicographically. -/
def byteValues (bytes : List UInt8) : List ℕ := bytes.map UInt8.toNat

theorem ordersBy_compareBytes : OrdersBy compareBytes byteValues := by
  intro xs
  induction xs with
  | nil =>
      intro ys
      cases ys with
      | nil => simp [compareBytes, byteValues]
      | cons b bs => simp [compareBytes, byteValues, List.nil_lt_cons]
  | cons a as ih =>
      intro ys
      cases ys with
      | nil => simp [compareBytes, byteValues, List.nil_lt_cons]
      | cons b bs =>
          -- the first bytes decide unless they are equal, and then the rest does
          have hrest := ih bs
          simp only [byteValues] at hrest
          simp only [compareBytes, byteValues, List.map_cons, List.cons_lt_cons_iff,
            Ordering.then_eq_lt, Ordering.then_eq_gt, compare_lt_iff_lt, compare_gt_iff_gt,
            compare_eq_iff_eq, hrest.1, hrest.2]
          refine ⟨trivial, ⟨?_, ?_⟩⟩
          · rintro (h | ⟨h, h'⟩)
            · exact .inl h
            · exact .inr ⟨h.symm, h'⟩
          · rintro (h | ⟨h, h'⟩)
            · exact .inl h
            · exact .inr ⟨h.symm, h'⟩

end Amplifier
