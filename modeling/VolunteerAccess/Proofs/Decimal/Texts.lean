import Mathlib.Data.List.TakeWhile
import VolunteerAccess.Decimal.Layout
import VolunteerAccess.Decimal.Reader
import VolunteerAccess.Text.Basic

/-!
# Texts of numbers

Settings turn numbers into texts and texts into numbers. Of this round trip the following is needed:

- `Decimal.wholeNumber?_toString`: **a whole number is read from its own text**.
- `Decimal.wholeNumber?_eq_none`, `Binary64.ofText?_eq_none`: no number is read from a text with a
  character that stands in none, such as a slash.
- `Decimal.isBlank_toString`, `Binary64.isBlank_display`: no number has a blank text.
-/

namespace VolunteerAccess

/-! ## Characters -/

namespace Text

variable {cs : List Char}

theorem digits_eq_of_forall (h : ∀ c ∈ cs, c.isDigit = true) :
    digits cs = (cs.map (fun c => c.toNat - 48), []) := by
  unfold digits
  rw [List.takeWhile_eq_self_iff.2 h, List.dropWhile_eq_nil_iff.2 h]

/-- Some character of the text is none of white space. -/
theorem isBlank_eq_false_of_mem {s : String} {c : Char} (hc : c ∈ s.toList)
    (hwhite : isWhite c = false) : isBlank s = false := by
  rw [Bool.eq_false_iff, Ne, isBlank_eq_true_iff]
  intro hall
  rw [hall c hc] at hwhite
  cases hwhite

theorem isWhite_of_isDigit {c : Char} (h : c.isDigit = true) : isWhite c = false := by
  have hrange : 48 ≤ c.toNat ∧ c.toNat ≤ 57 := Char.isDigit_iff_toNat.1 h
  simp only [isWhite, Bool.or_eq_false_iff, Bool.and_eq_false_iff, decide_eq_false_iff_not,
    beq_eq_false_iff_ne]
  omega

theorem isAlpha_of_isDigit {c : Char} (h : c.isDigit = true) : c.isAlpha = false := by
  have hrange : 48 ≤ c.toNat ∧ c.toNat ≤ 57 := Char.isDigit_iff_toNat.1 h
  have hbelow (d : Char) (hd : 57 < d.toNat) : ¬ d.val ≤ c.val := by
    intro hle
    have hle : d.toNat ≤ c.toNat := UInt32.le_iff_toNat_le.1 hle
    omega
  have hupper : c.isUpper = false := decide_eq_false fun h => hbelow 'A' (by decide) h.1
  have hlower : c.isLower = false := by
    show (decide ('a'.val ≤ c.val) && _) = false
    rw [decide_eq_false (hbelow 'a' (by decide))]
    rfl
  exact Bool.or_eq_false_iff.2 ⟨hupper, hlower⟩

/-- What is no letter is left alone when letters are made lower case. -/
theorem mem_lowerAscii {s : String} {c : Char} (hc : c ∈ s.toList) (hletter : c.isAlpha = false) :
    c ∈ (lowerAscii s).toList := by
  have hkept : c.toLower = c := by
    refine dif_neg fun hupper => ?_
    have hnone : c.isUpper = false := (Bool.or_eq_false_iff.1 hletter).1
    exact of_decide_eq_false hnone hupper
  unfold lowerAscii
  rw [String.toList_map]
  exact List.mem_map.2 ⟨c, hc, hkept⟩

/-- A text with something else than letters in it is not a word, in any case. -/
theorem lowerAscii_ne_of_mem {s word : String} {c : Char} (hc : c ∈ s.toList)
    (hletter : c.isAlpha = false) (hword : word.toList.all Char.isAlpha = true) :
    lowerAscii s ≠ word := by
  rintro rfl
  rw [List.all_eq_true.1 hword c (mem_lowerAscii hc hletter)] at hletter
  cases hletter

/-- A character that stands in no number: no digit, no letter, no sign and no point. -/
structure Foreign (c : Char) : Prop where
  digit : c.isDigit = false
  letter : c.isAlpha = false
  mark : c ∉ ['+', '-', '.']

theorem mem_digits_rest {c : Char} (hdigit : c.isDigit = false) (hc : c ∈ cs) :
    c ∈ (digits cs).2 := by
  rw [← List.takeWhile_append_dropWhile (p := Char.isDigit) (l := cs), List.mem_append] at hc
  rcases hc with hfront | hrest
  · rw [List.mem_takeWhile_imp hfront] at hdigit
    cases hdigit
  · exact hrest

/-- A text with something else than digits in it has more than digits. -/
theorem digits_ne_of_mem {c : Char} (hdigit : c.isDigit = false) (hc : c ∈ cs) (ds : List Nat) :
    digits cs ≠ (ds, []) := by
  intro hall
  have hrest := mem_digits_rest hdigit hc
  rw [hall] at hrest
  exact List.not_mem_nil hrest

end Text

/-! ## Whole numbers -/

namespace Decimal

theorem digitsValue_toDigits (n : Nat) :
    Text.digitsValue ((Nat.toDigits 10 n).map fun c => c.toNat - 48) = n := by
  have hstep : (fun (k : Nat) (c : Char) => k * 10 + (c.toNat - 48)) =
      fun k c => 10 * k + (c.toNat - '0'.toNat) := by
    funext k c
    rw [Nat.mul_comm]
    rfl
  unfold Text.digitsValue
  rw [List.foldl_map, hstep, ← Nat.ofDigitChars_eq_foldl, Nat.ofDigitChars_ten_toDigits]

/-- The characters of a whole number. -/
theorem toList_toString (n : Int) : (toString n).toList =
    (if n < 0 then ['-'] else []) ++ Nat.toDigits 10 n.natAbs := by
  cases n with
  | ofNat m =>
    show (toString m).toList = _
    rw [Nat.toString_eq_ofList_toDigits, String.toList_ofList, if_neg (by simp)]
    rfl
  | negSucc m =>
    show ("-" ++ toString (m + 1)).toList = _
    rw [String.toList_append, Nat.toString_eq_ofList_toDigits,
      String.toList_ofList (l := Nat.toDigits 10 (m + 1)), if_pos (Int.negSucc_lt_zero m)]
    rfl

/-- A text of digits has no sign. -/
theorem signed_of_forall {cs : List Char} (h : ∀ c ∈ cs, c.isDigit = true) :
    signed cs = (false, cs) := by
  unfold signed
  split
  · exact absurd (h _ List.mem_cons_self) (by decide)
  · exact absurd (h _ List.mem_cons_self) (by decide)
  · rfl

/-- **A whole number is read from its own text**, if it fits. -/
theorem wholeNumber?_toString {n : Int} (h : isSigned64 n = true) :
    wholeNumber? (toString n) = some n := by
  have hdigits : ∀ c ∈ Nat.toDigits 10 n.natAbs, c.isDigit = true := fun c hc =>
    Nat.isDigit_of_mem_toDigits (by decide) (by decide) hc
  have hsigned : signed (toString n).toList = (decide (n < 0), Nat.toDigits 10 n.natAbs) := by
    rw [toList_toString]
    by_cases hn : n < 0
    · rw [if_pos hn, decide_eq_true hn]
      rfl
    · rw [if_neg hn, decide_eq_false hn]
      exact signed_of_forall hdigits
  have hvalue := digitsValue_toDigits n.natAbs
  obtain ⟨d, ds, hne⟩ : ∃ d ds, (Nat.toDigits 10 n.natAbs).map (fun c => c.toNat - 48) = d :: ds :=
    List.exists_cons_of_ne_nil (by simp)
  rw [hne] at hvalue
  unfold wholeNumber?
  rw [hsigned]
  dsimp only
  rw [Text.digits_eq_of_forall hdigits, hne]
  dsimp only
  rw [hvalue]
  have hsign : (if decide (n < 0) = true then -(n.natAbs : Int) else n.natAbs) = n := by
    simp only [decide_eq_true_eq]
    split <;> omega
  rw [hsign, if_pos h]

/-- A whole number that is read fits. -/
theorem isSigned64_of_wholeNumber? {s : String} {n : Int} (h : wholeNumber? s = some n) :
    isSigned64 n = true := by
  unfold wholeNumber? at h
  dsimp only at h
  split at h
  · obtain ⟨hfits, hn⟩ := Option.ite_none_right_eq_some.1 h
    exact Option.some.inj hn ▸ hfits
  · cases h

/-- There is a digit in the text of a whole number. -/
theorem exists_isDigit_mem_toString (n : Int) : ∃ c ∈ (toString n).toList, c.isDigit = true := by
  obtain ⟨c, hc⟩ := List.exists_mem_of_ne_nil (Nat.toDigits 10 n.natAbs) (by simp)
  refine ⟨c, ?_, Nat.isDigit_of_mem_toDigits (by decide) (by decide) hc⟩
  rw [toList_toString]
  exact List.mem_append_right _ hc

theorem isBlank_toString (n : Int) : Text.isBlank (toString n) = false := by
  obtain ⟨c, hc, hdigit⟩ := exists_isDigit_mem_toString n
  exact Text.isBlank_eq_false_of_mem hc (Text.isWhite_of_isDigit hdigit)

/-! ## Characters that stand in no number -/

section
variable {c : Char} {cs : List Char}

/-- Such a character is neither part of a sign nor of a fraction. -/
theorem mem_signed_rest (h : Text.Foreign c) (hc : c ∈ cs) : c ∈ (signed cs).2 := by
  unfold signed
  split
  · rcases List.mem_cons.1 hc with rfl | hc
    · exact absurd h.mark (by decide)
    · exact hc
  · rcases List.mem_cons.1 hc with rfl | hc
    · exact absurd h.mark (by decide)
    · exact hc
  · exact hc

theorem mem_fraction_rest (h : Text.Foreign c) (hc : c ∈ cs) : c ∈ (fraction cs).2 := by
  unfold fraction
  split
  · rcases List.mem_cons.1 hc with rfl | hc
    · exact absurd h.mark (by decide)
    · exact Text.mem_digits_rest h.digit hc
  · exact hc

theorem power?_eq_none (h : Text.Foreign c) (hc : c ∈ cs) : power? cs = none := by
  unfold power?
  split
  · exact absurd hc List.not_mem_nil
  · next e cs =>
    split
    · next he =>
      have hne : c ≠ e := by
        rintro rfl
        have hletter : c.isAlpha = true := by
          rcases Bool.or_eq_true_iff.1 he with he | he <;> rw [beq_iff_eq.1 he] <;> decide
        rw [h.letter] at hletter
        cases hletter
      have hrest := mem_signed_rest h ((List.mem_cons.1 hc).resolve_left hne)
      dsimp only
      split
      · next hdigits => exact absurd hdigits (Text.digits_ne_of_mem h.digit hrest _)
      · rfl
    · rfl

theorem wholeNumber?_eq_none {s : String} (h : Text.Foreign c) (hc : c ∈ s.toList) :
    wholeNumber? s = none := by
  have hrest := mem_signed_rest h hc
  unfold wholeNumber?
  dsimp only
  split
  · next hdigits => exact absurd hdigits (Text.digits_ne_of_mem h.digit hrest _)
  · rfl

end

end Decimal

theorem Binary64.ofText?_eq_none {s : String} {c : Char} (h : Text.Foreign c) (hc : c ∈ s.toList) :
    ofText? s = none := by
  have hrest := Decimal.mem_signed_rest h hc
  have hname (word : String) (hword : word.toList.all Char.isAlpha = true) :
      Text.lowerAscii (String.ofList (Decimal.signed s.toList).2) ≠ word :=
    Text.lowerAscii_ne_of_mem (String.toList_ofList ▸ hrest) h.letter hword
  have hpower := Decimal.power?_eq_none h
    (Decimal.mem_fraction_rest h (Text.mem_digits_rest h.digit hrest))
  unfold ofText?
  dsimp only
  rw [if_neg, if_neg]
  · split
    · rfl
    · rw [hpower]
      rfl
  · exact mt beq_iff_eq.1 (hname "nan" rfl)
  · rw [Bool.or_eq_true_iff, beq_iff_eq, beq_iff_eq]
    exact not_or.2 ⟨hname "inf" rfl, hname "infinity" rfl⟩

/-! ## Binary numbers -/

/-- In positional notation there is a digit or a point. -/
theorem Decimal.exists_mem_positional {d : Decimal} (hdigits : ∀ c ∈ d.digits, c.isDigit = true) :
    ∃ c ∈ d.positional false, Text.isWhite c = false := by
  unfold positional
  split
  · exact ⟨'0', List.mem_cons_self, by decide⟩
  · split
    · cases hd : d.digits with
      | nil =>
        refine ⟨'0', List.mem_append_left _ (List.mem_append_right _ ?_), by decide⟩
        refine List.mem_replicate.2 ⟨?_, rfl⟩
        rw [List.length_nil]
        omega
      | cons c cs =>
        refine ⟨c, List.mem_cons_self, Text.isWhite_of_isDigit (hdigits c ?_)⟩
        rw [hd]
        exact List.mem_cons_self
    · exact ⟨'.', List.mem_append_right _ List.mem_cons_self, by decide⟩

namespace Binary64

/-- The digits of a number are those of a natural. -/
theorem isDigit_of_mem_shortest {tie : Tie} {x : Binary64} {c : Char}
    (h : c ∈ (x.shortest tie).digits) : c.isDigit = true := by
  obtain ⟨n, hn⟩ : ∃ n : Nat, (x.shortest tie).digits =
      ((toString n).toList.reverse.dropWhile (· == '0')).reverse := ⟨_, rfl⟩
  rw [hn, List.mem_reverse] at h
  have hmem := (List.dropWhile_sublist _).mem h
  rw [List.mem_reverse, Nat.toString_eq_ofList_toDigits, String.toList_ofList] at hmem
  exact Nat.isDigit_of_mem_toDigits (by decide) (by decide) hmem

theorem isBlank_display (x : Binary64) : Text.isBlank x.display = false := by
  unfold display
  split
  · rfl
  · split
    · split <;> rfl
    · have hdigits : ∀ c ∈ Decimal.digits (if x.isZero then { digits := ['0'], point := 1 }
          else x.shortest .away), c.isDigit = true := by
        split
        · exact List.forall_mem_singleton.2 rfl
        · exact fun _ hc => isDigit_of_mem_shortest hc
      obtain ⟨c, hc, hwhite⟩ := Decimal.exists_mem_positional hdigits
      refine Text.isBlank_eq_false_of_mem (c := c) ?_ hwhite
      show c ∈ (String.ofList (_ ++ _)).toList
      rw [String.toList_ofList]
      exact List.mem_append_right _ hc

end Binary64

end VolunteerAccess
