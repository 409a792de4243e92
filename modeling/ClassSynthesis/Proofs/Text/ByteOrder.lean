import Mathlib.Data.String.Basic
import Mathlib.Data.UInt

/-!
# The Order of UTF-8 Bytes

Texts compare by their code points, and comparing the bytes of their UTF-8 form gives the same
answer (`Text.compare_eq_compareOfLessAndEq_bytes`). The reason is a property of single
characters: the bytes of a smaller character come first, and a difference is met within the
bytes of the two characters, so it does not matter what follows them (`Text.utf8EncodeChar_lt`).
-/

namespace ClassSynthesis.Text

/-- The bytes of a text in UTF-8. -/
def bytes (text : String) : List UInt8 := text.toUTF8.data.toList

theorem bytes_eq_flatMap (text : String) :
    bytes text = text.toList.flatMap String.utf8EncodeChar := by
  rw [bytes, String.toUTF8, ← String.utf8Encode_toList, List.utf8Encode, List.data_toByteArray]

/-- A text is determined by its bytes. -/
theorem bytes_injective : Function.Injective bytes := by
  intro a b h
  apply String.toByteArray_inj.1
  exact ByteArray.ext (Array.toList_inj.1 h)

/-- Code points lie below `0x110000`. -/
theorem toNat_val_lt (c : Char) : c.val.toNat < 0x110000 := by
  have hvalid := c.valid
  simp only [UInt32.isValidChar, Nat.isValidChar] at hvalid
  omega

/-- The bytes of a smaller character come first, whatever follows them. -/
theorem utf8EncodeChar_lt {c d : Char} (h : c < d) (s t : List UInt8) :
    String.utf8EncodeChar c ++ s < String.utf8EncodeChar d ++ t := by
  have hcode : c.val.toNat < d.val.toNat := h
  have hbound := toNat_val_lt d
  unfold String.utf8EncodeChar
  generalize c.val.toNat = v at *
  generalize d.val.toNat = w at *
  dsimp only
  -- The first byte tells the number of bytes, and a longer form has a greater one. In forms of
  -- one length the bytes are the digits of the code point to the base 64.
  split_ifs <;>
    simp only [List.cons_append, List.nil_append, List.cons_lt_cons_iff, UInt8.lt_iff_toNat_lt,
      ← UInt8.toNat_inj, UInt8.toNat_ofNat'] <;>
    simp (disch := omega) only [Nat.mod_eq_of_lt] <;>
    omega

theorem flatMap_utf8EncodeChar_lt {cs ds : List Char} (h : cs < ds) :
    cs.flatMap String.utf8EncodeChar < ds.flatMap String.utf8EncodeChar := by
  induction h with
  | @nil d ds =>
    obtain ⟨first, others, hd⟩ :=
      List.exists_cons_of_ne_nil (String.utf8EncodeChar_ne_nil (c := d))
    rw [List.flatMap_nil, List.flatMap_cons, hd]
    exact List.nil_lt_cons first _
  | rel hlt =>
    rw [List.flatMap_cons, List.flatMap_cons]
    exact utf8EncodeChar_lt hlt _ _
  | cons _ ih =>
    rw [List.flatMap_cons, List.flatMap_cons]
    exact List.append_left_lt ih

/-- A smaller text has smaller bytes. -/
theorem bytes_lt_bytes {a b : String} (h : a < b) : bytes a < bytes b := by
  rw [bytes_eq_flatMap, bytes_eq_flatMap]
  exact flatMap_utf8EncodeChar_lt (String.lt_iff_toList_lt.1 h)

/-- Texts compare as their bytes do. -/
theorem compare_eq_compareOfLessAndEq_bytes (a b : String) :
    compare a b = compareOfLessAndEq (bytes a) (bytes b) := by
  rw [compareOfLessAndEq]
  rcases lt_trichotomy a b with hlt | rfl | hgt
  · rw [compare_lt_iff_lt.2 hlt, if_pos (bytes_lt_bytes hlt)]
  · rw [compare_eq_iff_eq.2 rfl, if_neg (List.lt_irrefl _), if_pos rfl]
  · have hne : bytes a ≠ bytes b := fun heq => hgt.ne' (bytes_injective heq)
    rw [compare_gt_iff_gt.2 hgt, if_neg (List.lt_asymm (bytes_lt_bytes hgt)), if_neg hne]

end ClassSynthesis.Text
