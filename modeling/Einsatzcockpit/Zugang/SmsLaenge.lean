import Einsatzcockpit.Lib.Packing

/-! The length of a text message, `sms_laenge` of `gk_zugang_service.py`, and the segments that
GSM 03.38 cuts it into. -/

namespace Einsatzcockpit.Zugang

open Packing

section Laenge

def gsm : List Char :=
  ("@£$¥èéùìòÇ\nØø\rÅåΔ_ΦΓΛΩΠΨΣΘΞ !\"#¤%&'()*+,-./0123456789:;<=>?¡" ++
    "ABCDEFGHIJKLMNOPQRSTUVWXYZÄÖÑÜ§¿abcdefghijklmnopqrstuvwxyzäöñüßà").toList

def extended : List Char := "€[]\x7b\x7d\\^~|".toList

def smsLaenge (text : String) : Nat × String × Nat :=
  if text.toList.all fun char => char ∈ gsm ∨ char ∈ extended then
    let chars := (text.toList.map fun char => if char ∈ extended then 2 else 1).sum
    (chars, "GSM-7", if chars ≤ 160 then 1 else (chars + 152) / 153)
  else
    let chars := text.toList.length
    (chars, "UCS-2", if chars ≤ 70 then 1 else (chars + 66) / 67)

end Laenge

section Referenz

def basistabelle : List Char :=
  ("@£$¥èéùìòÇ\nØø\rÅåΔ_ΦΓΛΩΠΨΣΘΞÆæßÉ !\"#¤%&'()*+,-./0123456789:;<=>?" ++
    "¡ABCDEFGHIJKLMNOPQRSTUVWXYZÄÖÑÜ§¿abcdefghijklmnopqrstuvwxyzäöñüà").toList

def erweiterung : List Char := "\x0c^\x7b\x7d\\[~]|€".toList

def septette (char : Char) : Nat := if char ∈ erweiterung then 2 else 1

def einheiten (char : Char) : Nat := if char.toNat < 0x10000 then 1 else 2

def segmente (einzeln verkettet : Nat) (size : Char → Nat) (text : List Char) : List (List Char) :=
  if (text.map size).sum ≤ einzeln then [text] else pack verkettet size [] text

def referenz (text : String) : String × Nat :=
  if text.toList.all fun char => char ∈ basistabelle ∨ char ∈ erweiterung then
    ("GSM-7", (segmente 160 153 septette text.toList).length)
  else
    ("UCS-2", (segmente 70 67 einheiten text.toList).length)

theorem septette_bounds (char : Char) : 0 < septette char ∧ septette char ≤ 153 := by
  unfold septette
  split <;> decide

theorem einheiten_bounds (char : Char) : 0 < einheiten char ∧ einheiten char ≤ 67 := by
  unfold einheiten
  split <;> decide

end Referenz

section Vergleich

/-- A text whose segments a division counts: those of a text in the code's own tables lose no
more at their ends than the last one has room for, and the others have a character of no
table, and few enough surrogate pairs. -/
def Genau (text : String) : Prop :=
  if text.toList.all fun char => char ∈ gsm ∨ char ∈ extended then
    (text.toList.map septette).sum ≤ 160 ∨
      (text.toList.map septette).sum + loss 153 septette 0 text.toList ≤ 153 * (((text.toList.map septette).sum + 152) / 153)
  else
    (∃ char ∈ text.toList, char ∉ basistabelle ∧ char ∉ erweiterung) ∧
      ((text.toList.map einheiten).sum ≤ 70 ∨ 70 < text.toList.length ∧
        (text.toList.map einheiten).sum + loss 67 einheiten 0 text.toList ≤ 67 * ((text.toList.length + 66) / 67))

theorem gsm_basistabelle : ∀ char ∈ gsm, char ∈ basistabelle ∧ char ∉ erweiterung := by
  have all : (gsm.all fun char => char ∈ basistabelle ∧ char ∉ erweiterung) = true := by decide +kernel
  exact fun char member => of_decide_eq_true (List.all_eq_true.mp all char member)

theorem extended_erweiterung : ∀ char ∈ extended, char ∈ erweiterung := by
  have all : (extended.all fun char => char ∈ erweiterung) = true := by decide +kernel
  exact fun char member => of_decide_eq_true (List.all_eq_true.mp all char member)

theorem mem_tabelle {char : Char} (known : char ∈ gsm ∨ char ∈ extended) : char ∈ basistabelle ∨ char ∈ erweiterung :=
  known.imp (fun member => (gsm_basistabelle char member).1) (extended_erweiterung char)

theorem septette_eq {char : Char} (known : char ∈ gsm ∨ char ∈ extended) :
    (if char ∈ extended then 2 else 1) = septette char := by
  rcases known with basic | escaped
  · have single := (gsm_basistabelle char basic).2
    rw [septette, if_neg single, if_neg fun escaped => single (extended_erweiterung char escaped)]
  · rw [septette, if_pos escaped, if_pos (extended_erweiterung char escaped)]

theorem length_le_einheiten (text : List Char) : text.length ≤ (text.map einheiten).sum := by
  induction text with
  | nil => exact le_rfl
  | cons char rest ih =>
    have first := (einheiten_bounds char).1
    rw [List.length_cons, List.map_cons, List.sum_cons]
    omega

/-- The count by division of a text that is `total` long by the code's reckoning. -/
theorem teilung_eq {einzeln verkettet total : Nat} {size : Char → Nat} {text : List Char}
    (bounds : ∀ char, 0 < size char ∧ size char ≤ verkettet) (capacious : 1 < verkettet) (larger : verkettet ≤ einzeln)
    (counted : total ≤ (text.map size).sum) :
    (if total ≤ einzeln then 1 else (total + (verkettet - 1)) / verkettet) = (segmente einzeln verkettet size text).length ↔
      (text.map size).sum ≤ einzeln ∨ einzeln < total ∧
        (text.map size).sum + loss verkettet size 0 text ≤ verkettet * ((total + (verkettet - 1)) / verkettet) := by
  by_cases short : (text.map size).sum ≤ einzeln
  · rw [segmente, if_pos short, if_pos (counted.trans short)]
    exact iff_of_true rfl (Or.inl short)
  · have some_ : text ≠ [] := by
      rintro rfl
      exact short (Nat.zero_le _)
    have small : ∀ char ∈ text, 0 < size char ∧ size char ≤ verkettet := fun char _ => bounds char
    rw [segmente, if_neg short, or_iff_right short]
    by_cases few : total ≤ einzeln
    · rw [if_pos few, iff_false_right (fun both => absurd few (not_le.mpr both.1))]
      intro one
      have room := (length_pack_le_iff small some_).mp one.ge
      omega
    · rw [if_neg few, and_iff_right (not_le.mp few)]
      exact length_pack_eq_ceil small some_ (by omega) counted

/-- The encoding and the number of segments are the reference's just for these texts. -/
theorem smsLaenge_referenz (text : String) : (smsLaenge text).2 = referenz text ↔ Genau text := by
  unfold smsLaenge referenz Genau
  simp only [List.all_eq_true, decide_eq_true_eq]
  by_cases known : ∀ char ∈ text.toList, char ∈ gsm ∨ char ∈ extended
  · have inTables : ∀ char ∈ text.toList, char ∈ basistabelle ∨ char ∈ erweiterung := fun char member => mem_tabelle (known char member)
    have chars : (text.toList.map fun char => if char ∈ extended then 2 else 1) = text.toList.map septette :=
      List.map_congr_left fun char member => septette_eq (known char member)
    rw [if_pos known, if_pos inTables, if_pos known]
    dsimp only
    rw [chars, Prod.mk.injEq, and_iff_right rfl]
    have counts := @teilung_eq 160 153 _ septette text.toList septette_bounds (by decide) (by decide : 153 ≤ 160) le_rfl
    rw [counts]
    by_cases short : (text.toList.map septette).sum ≤ 160
    · exact iff_of_true (Or.inl short) (Or.inl short)
    · rw [or_iff_right short, or_iff_right short, and_iff_right (not_le.mp short)]
  · rw [if_neg known, if_neg known]
    dsimp only
    by_cases inTables : ∀ char ∈ text.toList, char ∈ basistabelle ∨ char ∈ erweiterung
    · have differ : "UCS-2" ≠ "GSM-7" := by decide
      rw [if_pos inTables]
      refine iff_of_false (fun same => absurd (congrArg Prod.fst same) differ) ?_
      rintro ⟨⟨char, member, basic, escaped⟩, -⟩
      exact (inTables char member).elim basic escaped
    · rw [if_neg inTables, Prod.mk.injEq, and_iff_right rfl, and_iff_right (by simpa using inTables)]
      exact @teilung_eq 70 67 _ einheiten text.toList einheiten_bounds (by decide) (by decide : 67 ≤ 70) (length_le_einheiten _)

/-- The letter É has its place in the basic table. -/
theorem smsLaenge_akut : (smsLaenge "É").2 ≠ referenz "É" := by decide +kernel

end Vergleich

end Einsatzcockpit.Zugang
