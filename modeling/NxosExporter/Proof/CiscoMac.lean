import NxosExporter.ManagementClient

/-!
# Reading a dotted MAC

The switch writes a MAC as groups of four hexadecimal digits with dots between them. The conversion drops
every dot and puts a colon in front of each pair of digits but the first, by the parity of the digits it has
kept, so where the dots stand does not matter and the pairs come out as they were.
-/

namespace NxosExporter

open Effectful

/-- The two digits of a byte, in any letter case, the high one first. -/
def WritesByte (byte : UInt8) (pair : List Char) : Prop :=
  ∃ hi lo high low, pair = [hi, lo] ∧ hexDigitValue hi = some high ∧ hexDigitValue lo = some low ∧
    byte.toNat = 16 * high + low

/-- The bytes as groups of two with a dot between groups; the last group may hold one byte. -/
inductive CiscoText : List UInt8 → List Char → Prop
  | one {byte : UInt8} {pair : List Char} (hpair : WritesByte byte pair) : CiscoText [byte] pair
  | two {first second : UInt8} {firstPair secondPair : List Char} (hfirst : WritesByte first firstPair)
      (hsecond : WritesByte second secondPair) : CiscoText [first, second] (firstPair ++ secondPair)
  | group {first second : UInt8} {firstPair secondPair text : List Char} {rest : List UInt8}
      (hfirst : WritesByte first firstPair) (hsecond : WritesByte second secondPair)
      (hrest : CiscoText rest text) :
      CiscoText (first :: second :: rest) (firstPair ++ secondPair ++ '.' :: text)

/-- The characters that the conversion keeps. -/
def withoutDots (text : List Char) : List Char := text.filter fun c => c ≠ '.'

section Dots

variable {byte : UInt8} {bytes : List UInt8} {pair text : List Char} {pairs : List (List Char)}

theorem insertColons_withoutDots (text : List Char) (cnt : Nat) :
    insertColons (withoutDots text) cnt = insertColons text cnt := by
  induction text generalizing cnt with
  | nil => rfl
  | cons c rest ih =>
      by_cases hdot : c = '.'
      · simp [insertColons, withoutDots, hdot, ← ih]
      · simp [insertColons, withoutDots, hdot, ← ih]

theorem ne_of_hexDigitValue {c other : Char} {value : Nat} (hc : hexDigitValue c = some value)
    (hother : hexDigitValue other = none) : c ≠ other := by
  rintro rfl
  rw [hc] at hother
  cases hother

theorem WritesByte.not_mem (hpair : WritesByte byte pair) {c : Char} (hc : hexDigitValue c = none) :
    c ∉ pair := by
  obtain ⟨hi, lo, high, low, rfl, hhigh, hlow, -⟩ := hpair
  simp [(ne_of_hexDigitValue hhigh hc).symm, (ne_of_hexDigitValue hlow hc).symm]

theorem WritesByte.withoutDots_eq (hpair : WritesByte byte pair) : withoutDots pair = pair := by
  rw [withoutDots, List.filter_eq_self]
  intro c hmem
  have hne : c ≠ '.' := by
    rintro rfl
    exact hpair.not_mem rfl hmem
  simp [hne]

theorem withoutDots_append (first second : List Char) :
    withoutDots (first ++ second) = withoutDots first ++ withoutDots second :=
  List.filter_append first second

/-- Without its dots the text is the pairs of its bytes, one after the other. -/
theorem CiscoText.exists_pairs (htext : CiscoText bytes text) :
    ∃ pairs, List.Forall₂ WritesByte bytes pairs ∧ withoutDots text = pairs.flatten := by
  induction htext with
  | @one byte pair hpair =>
      exact ⟨[pair], .cons hpair .nil, by simp [hpair.withoutDots_eq]⟩
  | @two first second firstPair secondPair hfirst hsecond =>
      refine ⟨[firstPair, secondPair], .cons hfirst (.cons hsecond .nil), ?_⟩
      simp [withoutDots_append, hfirst.withoutDots_eq, hsecond.withoutDots_eq]
  | @group first second firstPair secondPair text rest hfirst hsecond hrest ih =>
      obtain ⟨pairs, hpairs, hflatten⟩ := ih
      refine ⟨firstPair :: secondPair :: pairs, .cons hfirst (.cons hsecond hpairs), ?_⟩
      have hdot : withoutDots ('.' :: text) = withoutDots text := by simp [withoutDots]
      simp [withoutDots_append, hfirst.withoutDots_eq, hsecond.withoutDots_eq, hdot, hflatten]

end Dots

section Pairs

variable {byte : UInt8} {bytes : List UInt8} {pair text : List Char} {pairs : List (List Char)}

/-- With an even number of characters kept, the loop copies the next pair, behind a colon unless it is the
first. -/
theorem insertColons_pair (hpair : WritesByte byte pair) (rest : List Char) (n : Nat) :
    insertColons (pair ++ rest) (2 * n)
      = (if n = 0 then pair else ':' :: pair) ++ insertColons rest (2 * (n + 1)) := by
  obtain ⟨hi, lo, high, low, rfl, hhigh, hlow, -⟩ := hpair
  have hhi : hi ≠ '.' := ne_of_hexDigitValue hhigh rfl
  have hlo : lo ≠ '.' := ne_of_hexDigitValue hlow rfl
  have hnext : 2 * n + 1 + 1 = 2 * (n + 1) := by omega
  by_cases hzero : n = 0
  · simp [insertColons, hhi, hlo, hzero]
  · have hpos : 0 < n := by omega
    simp [insertColons, hhi, hlo, hpos, hzero, hnext]

theorem insertColons_pairs (hpairs : List.Forall₂ WritesByte bytes pairs) {n : Nat} (hn : n ≠ 0) :
    insertColons pairs.flatten (2 * n) = pairs.flatMap (':' :: ·) := by
  induction hpairs generalizing n with
  | nil => rfl
  | cons hpair _ ih => simp [insertColons_pair hpair, hn, ih (Nat.succ_ne_zero n)]

theorem intercalate_cons_eq (sep : Char) (first : List Char) (rest : List (List Char)) :
    [sep].intercalate (first :: rest) = first ++ rest.flatMap (sep :: ·) := by
  induction rest generalizing first with
  | nil => simp
  | cons second rest ih => simp [ih]

/-- The pairs come out of the loop with a colon between them. -/
theorem insertColons_flatten (hpairs : List.Forall₂ WritesByte bytes pairs) :
    insertColons pairs.flatten 0 = [':'].intercalate pairs := by
  cases hpairs with
  | nil => rfl
  | @cons byte pair bytes rest hpair hrest =>
      have hfirst := insertColons_pair hpair rest.flatten 0
      rw [Nat.mul_zero, if_pos rfl, insertColons_pairs hrest Nat.one_ne_zero] at hfirst
      rw [List.flatten_cons, hfirst, intercalate_cons_eq]

theorem decodeHexByte_of_writesByte (hpair : WritesByte byte pair) : decodeHexByte pair = some byte := by
  obtain ⟨hi, lo, high, low, rfl, hhigh, hlow, hbyte⟩ := hpair
  simp [decodeHexByte, hhigh, hlow, ← hbyte]

theorem mapM_decodeHexByte (hpairs : List.Forall₂ WritesByte bytes pairs) :
    pairs.mapM decodeHexByte = some bytes := by
  induction hpairs with
  | nil => rfl
  | cons hpair _ ih => simp [List.mapM_cons, decodeHexByte_of_writesByte hpair, ih]

theorem not_mem_of_writesBytes (hpairs : List.Forall₂ WritesByte bytes pairs) {c : Char}
    (hc : hexDigitValue c = none) : ∀ pair ∈ pairs, c ∉ pair := by
  induction hpairs with
  | nil => simp
  | cons hpair _ ih => exact List.forall_mem_cons.mpr ⟨hpair.not_mem hc, ih⟩

theorem fromText_intercalate (hpairs : List.Forall₂ WritesByte bytes pairs) (hbytes : bytes ≠ [])
    (hlength : bytes.length ≤ HWAddr.maxHWAddrLen) :
    HWAddr.fromText ([':'].intercalate pairs) = some ⟨HWAddr.htypeEther, bytes⟩ := by
  have hsplit : ([':'].intercalate pairs).splitOn ':' = pairs := by
    refine List.splitOn_intercalate ':' (not_mem_of_writesBytes hpairs rfl) ?_
    rintro rfl
    cases hpairs
    exact hbytes rfl
  have htext : ([':'].intercalate pairs).isEmpty = false := by
    cases hpairs with
    | nil => exact absurd rfl hbytes
    | cons hpair _ =>
        obtain ⟨hi, lo, high, low, rfl, -⟩ := hpair
        rw [intercalate_cons_eq]
        rfl
  simp [HWAddr.fromText, hsplit, htext, mapM_decodeHexByte hpairs, hlength]

/-- Where the dots of a text stand, and whether there are any, does not matter. -/
theorem fromRawCiscoString_congr {raw other : String}
    (hdots : withoutDots raw.toList = withoutDots other.toList) :
    fromRawCiscoString raw = fromRawCiscoString other := by
  rw [fromRawCiscoString, fromRawCiscoString, ← insertColons_withoutDots, hdots, insertColons_withoutDots]

/-- **Dotted MACs.** The conversion of a text that writes the bytes in groups gives exactly these bytes, and
dots put in or left out anywhere change nothing. -/
theorem fromRawCiscoString_of_ciscoText (bytes : List UInt8) (rawMac : String)
    (htext : CiscoText bytes rawMac.toList) (hlength : bytes.length ≤ HWAddr.maxHWAddrLen) :
    fromRawCiscoString rawMac = .ok ⟨HWAddr.htypeEther, bytes⟩ ∧
      ∀ other : String, withoutDots other.toList = withoutDots rawMac.toList →
        fromRawCiscoString other = fromRawCiscoString rawMac := by
  refine ⟨?_, fun other hdots => fromRawCiscoString_congr hdots⟩
  obtain ⟨pairs, hpairs, hflatten⟩ := htext.exists_pairs
  have hbytes : bytes ≠ [] := by
    rintro rfl
    cases htext
  rw [fromRawCiscoString, ← insertColons_withoutDots, hflatten, insertColons_flatten hpairs,
    fromText_intercalate hpairs hbytes hlength]

end Pairs

theorem ciscoText_mixedCase : CiscoText [0x00, 0x50, 0x5B, 0xff, 0x1a] "0050.5bFF.1A".toList :=
  .group ⟨'0', '0', 0, 0, rfl, rfl, rfl, rfl⟩ ⟨'5', '0', 5, 0, rfl, rfl, rfl, rfl⟩
    (.group ⟨'5', 'b', 5, 11, rfl, rfl, rfl, rfl⟩ ⟨'F', 'F', 15, 15, rfl, rfl, rfl, rfl⟩
      (.one ⟨'1', 'A', 1, 10, rfl, rfl, rfl, rfl⟩))

theorem fromRawCiscoString_mixedCase :
    fromRawCiscoString "0050.5bFF.1A" = .ok ⟨HWAddr.htypeEther, [0x00, 0x50, 0x5B, 0xff, 0x1a]⟩ ∧
      ∀ other : String, withoutDots other.toList = withoutDots "0050.5bFF.1A".toList →
        fromRawCiscoString other = fromRawCiscoString "0050.5bFF.1A" :=
  fromRawCiscoString_of_ciscoText _ _ ciscoText_mixedCase (by decide)

end NxosExporter
