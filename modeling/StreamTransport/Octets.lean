/-!
# Bytes and the words they spell

A word is spelled low byte first (`littleEndian`) or high byte first
(`bigEndian`). Reading inverts spelling on every word that fits the width, and
spelling inverts reading on every string of that width. A window into a buffer
reads zero past the end of the buffer; windows that follow each other join.
-/

set_option autoImplicit false

namespace StreamTransport

abbrev Bytes := List UInt8

namespace Octets

def littleEndian : Nat → Nat → Bytes
  | 0, _ => []
  | width + 1, value => UInt8.ofNat (value % 256) :: littleEndian width (value / 256)

def ofLittleEndian : Bytes → Nat
  | [] => 0
  | b :: bs => b.toNat + 256 * ofLittleEndian bs

def bigEndian (width value : Nat) : Bytes := (littleEndian width value).reverse

def ofBigEndian (bs : Bytes) : Nat := ofLittleEndian bs.reverse

/-- How many words of a width there are. -/
def span : Nat → Nat
  | 0 => 1
  | width + 1 => 256 * span width

/-- The `width` bytes of `buffer` from `offset` on, zero past its end. -/
def window (buffer : Bytes) (offset width : Nat) : Bytes :=
  (List.range width).map fun i => buffer.getD (offset + i) 0

theorem length_littleEndian (width value : Nat) : (littleEndian width value).length = width := by
  induction width generalizing value with
  | zero => rfl
  | succ width ih => simp [littleEndian, ih]

theorem length_bigEndian (width value : Nat) : (bigEndian width value).length = width := by
  simp [bigEndian, length_littleEndian]

theorem ofLittleEndian_littleEndian (width value : Nat) (h : value < span width) :
    ofLittleEndian (littleEndian width value) = value := by
  induction width generalizing value with
  | zero =>
    have : value = 0 := Nat.lt_one_iff.mp h
    simp [littleEndian, ofLittleEndian, this]
  | succ width ih =>
    have hd : value / 256 < span width := Nat.div_lt_of_lt_mul h
    have hm : (UInt8.ofNat (value % 256)).toNat = value % 256 := by
      rw [UInt8.toNat_ofNat']; omega
    rw [littleEndian, ofLittleEndian, ih _ hd, hm]
    omega

theorem littleEndian_ofLittleEndian (bs : Bytes) :
    littleEndian bs.length (ofLittleEndian bs) = bs := by
  induction bs with
  | nil => rfl
  | cons b bs ih =>
    have hb := b.toNat_lt
    have e1 : (b.toNat + 256 * ofLittleEndian bs) % 256 = b.toNat := by omega
    have e2 : (b.toNat + 256 * ofLittleEndian bs) / 256 = ofLittleEndian bs := by omega
    simp only [List.length_cons, littleEndian, ofLittleEndian, e1, e2, ih, UInt8.ofNat_toNat]

theorem ofLittleEndian_lt (bs : Bytes) : ofLittleEndian bs < span bs.length := by
  induction bs with
  | nil => exact Nat.one_pos
  | cons b bs ih =>
    have hb := b.toNat_lt
    rw [List.length_cons, span, ofLittleEndian]
    omega

theorem ofBigEndian_bigEndian (width value : Nat) (h : value < span width) :
    ofBigEndian (bigEndian width value) = value := by
  simp [ofBigEndian, bigEndian, ofLittleEndian_littleEndian width value h]

theorem bigEndian_ofBigEndian (bs : Bytes) : bigEndian bs.length (ofBigEndian bs) = bs := by
  have h := littleEndian_ofLittleEndian bs.reverse
  rw [List.length_reverse] at h
  simp [bigEndian, ofBigEndian, h]

theorem ofBigEndian_lt (bs : Bytes) : ofBigEndian bs < span bs.length := by
  simpa [ofBigEndian] using ofLittleEndian_lt bs.reverse

theorem length_window (buffer : Bytes) (offset width : Nat) :
    (window buffer offset width).length = width := by
  simp [window]

theorem window_eq_of_length_le (buffer : Bytes) (offset width : Nat)
    (h : offset + width ≤ buffer.length) :
    window buffer offset width = (buffer.drop offset).take width := by
  apply List.ext_getElem
  · simp [length_window]; omega
  · intro i h1 h2
    rw [length_window] at h1
    simp only [window, List.getElem_map, List.getElem_range, List.getElem_take, List.getElem_drop]
    rw [List.getD_eq_getElem?_getD, List.getElem?_eq_getElem (by omega), Option.getD_some]

theorem window_add (buffer : Bytes) (offset m n : Nat) :
    window buffer offset (m + n) = window buffer offset m ++ window buffer (offset + m) n := by
  simp only [window, List.range_add, List.map_append, List.map_map]
  congr 1
  apply List.map_congr_left
  intro i _
  rw [Function.comp_apply, Nat.add_assoc]

theorem window_succ (buffer : Bytes) (offset n : Nat) :
    window buffer offset (n + 1) = buffer.getD offset 0 :: window buffer (offset + 1) n := by
  rw [Nat.add_comm n 1, window_add]
  rfl

theorem window_append (before field after : Bytes) :
    window (before ++ field ++ after) before.length field.length = field := by
  rw [window_eq_of_length_le, List.append_assoc, List.drop_left, List.take_left]
  simp only [List.length_append]
  omega

end Octets
end StreamTransport
