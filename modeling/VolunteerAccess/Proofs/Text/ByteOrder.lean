import Mathlib.Tactic.SplitIfs
import Mathlib.Tactic.Tauto
import VolunteerAccess.Dict

/-!
# The order of encoded texts

Names are kept in the order of their characters. Outside, texts are compared by the
bytes that encode them. UTF-8 is made so that this is one order: a greater character
has a greater encoding, and no encoding is the start of another one.

- `Text.bytes`: the bytes of a text.
- `Text.encode_append_lt`: two characters decide, whatever follows them.
- `Text.bytes_lt_iff`, `Text.bytes_le_iff`: **texts are ordered as their bytes are**.
-/

namespace VolunteerAccess.Text

/-- The bytes that encode a text. -/
def bytes (s : String) : List UInt8 := s.toUTF8.data.toList

/-! ## Characters -/

/-- The low bits of a character and the mark of their place fill at most one byte. -/
theorem toNat_ofNat_mod_add {v bits mark : Nat} (hpos : 0 < bits) (hbyte : bits + mark ≤ 256) :
    (UInt8.ofNat (v % bits + mark)).toNat = v % bits + mark := by
  have hlt := Nat.mod_lt v hpos
  rw [UInt8.toNat_ofNat']
  exact Nat.mod_eq_of_lt (by omega)

/-- Of two numbers the lesser one has the lesser digit where they first differ. -/
theorem digits_lt {v w : Nat} (hlt : v < w) (hw : w < 1114112) :
    v / 262144 % 8 < w / 262144 % 8 ∨ v / 262144 % 8 = w / 262144 % 8 ∧
      (v / 4096 % 64 < w / 4096 % 64 ∨ v / 4096 % 64 = w / 4096 % 64 ∧
        (v / 64 % 64 < w / 64 % 64 ∨ v / 64 % 64 = w / 64 % 64 ∧ v % 64 < w % 64)) := by
  have hv8 : v / 262144 % 8 = v / 262144 := Nat.mod_eq_of_lt (by omega)
  have hw8 : w / 262144 % 8 = w / 262144 := Nat.mod_eq_of_lt (by omega)
  rw [hv8, hw8]
  omega

/-- A greater character has a greater encoding, whatever follows. -/
theorem encode_append_lt {c d : Char} (h : c < d) (s t : List UInt8) :
    String.utf8EncodeChar c ++ s < String.utf8EncodeChar d ++ t := by
  have hlt : c.val.toNat < d.val.toNat := h
  have hd : d.val.toNat < 1114112 := by
    rcases d.valid with hd | hd <;> omega
  have hdigits := digits_lt hlt hd
  unfold String.utf8EncodeChar
  generalize c.val.toNat = v at *
  generalize d.val.toNat = w at *
  -- Encodings of unequal length differ in the first byte, others where the digits do.
  show (if v ≤ 127 then _ else _) ++ s < (if w ≤ 127 then _ else _) ++ t
  split_ifs <;>
    simp (disch := decide) only [List.cons_append, List.nil_append, List.cons_lt_cons_iff,
      UInt8.lt_iff_toNat_lt, ← UInt8.toNat_inj, toNat_ofNat_mod_add, Nat.add_lt_add_iff_right,
      Nat.add_right_cancel_iff]
  all_goals first
    | omega
    | tauto
    | (simp only [UInt8.toNat_ofNat']
       omega)

/-! ## Texts -/

theorem bytes_eq_flatMap (s : String) : bytes s = s.toList.flatMap String.utf8EncodeChar := by
  show s.toByteArray.data.toList = _
  rw [← String.utf8Encode_toList, List.utf8Encode, List.toList_data_toByteArray]

theorem flatMap_encode_lt {cs ds : List Char} (h : cs < ds) :
    cs.flatMap String.utf8EncodeChar < ds.flatMap String.utf8EncodeChar := by
  induction cs generalizing ds with
  | nil =>
    cases ds with
    | nil => exact absurd h (List.lt_irrefl [])
    | cons d ds =>
      rw [List.flatMap_nil, List.flatMap_cons]
      obtain ⟨b, bs, hb⟩ := List.exists_cons_of_ne_nil (String.utf8EncodeChar_ne_nil (c := d))
      rw [hb]
      exact List.nil_lt_cons _ _
  | cons c cs ih =>
    cases ds with
    | nil => exact absurd h (List.not_lt_nil _)
    | cons d ds =>
      rw [List.flatMap_cons, List.flatMap_cons]
      rcases List.cons_lt_cons_iff.1 h with hlt | ⟨rfl, hlt⟩
      · exact encode_append_lt hlt _ _
      · exact List.append_left_lt (ih hlt)

theorem bytes_lt_of_lt {s t : String} (h : s < t) : bytes s < bytes t := by
  rw [bytes_eq_flatMap, bytes_eq_flatMap]
  exact flatMap_encode_lt (String.lt_iff.1 h)

/-- **Texts are ordered as their bytes are.** -/
theorem bytes_lt_iff {s t : String} : bytes s < bytes t ↔ s < t := by
  constructor
  · intro h
    apply Decidable.byContradiction
    intro hnot
    by_cases heq : s = t
    · subst heq
      exact List.lt_irrefl _ h
    · exact List.lt_asymm h (bytes_lt_of_lt (Dict.key_lt_of_not_lt_of_ne hnot heq))
  · exact bytes_lt_of_lt

theorem bytes_le_iff {s t : String} : bytes s ≤ bytes t ↔ s ≤ t := by
  rw [← List.not_lt, ← String.not_lt, bytes_lt_iff]

end VolunteerAccess.Text
