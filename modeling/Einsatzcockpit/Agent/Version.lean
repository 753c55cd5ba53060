import Einsatzcockpit.Lib.Endless
import Mathlib.Data.Char
import Mathlib.Data.List.Lex
import Mathlib.Data.List.TakeWhile

/-! The versions of packages, `valid_version` and `version_compare` of
`infoscreen_agent_releases.py`. -/

namespace Einsatzcockpit.Agent

open Endless

def partition (sep : Char) : List Char → Option (List Char × List Char)
  | [] => none
  | c :: rest => if c = sep then some ([], rest) else (partition sep rest).map fun (before, after) => (c :: before, after)

def rpartition (sep : Char) (value : List Char) : Option (List Char × List Char) :=
  (partition sep value.reverse).map fun (after, before) => (before.reverse, after.reverse)

def isdigit (value : List Char) : Bool := !value.isEmpty && value.all Char.isDigit

def ziffer (n : Nat) (c : Char) : Nat := 10 * n + (c.toNat - 48)

/-- `int` of digits -/
def wert (digits : List Char) : Nat := digits.foldl ziffer 0

/-- `valid_version` -/
def validVersion (value : List Char) : Bool :=
  let erlaubt (c : Char) : Bool := c.isAlphanum || ['.', '+', ':', '~', '-'].contains c
  let (epochOk, upstream) := match partition ':' value with
    | some (epoch, upstream) => (isdigit epoch, upstream)
    | none => (true, value)
  value.head?.any Char.isDigit && value.all erlaubt && value.length ≤ 100 &&
    epochOk && upstream.head?.any Char.isDigit &&
    (rpartition '-' upstream).all fun (_, revision) =>
      !revision.isEmpty && revision.all fun c => c.isAlphanum || ['+', '.', '~'].contains c

abbrev Version := { value : List Char // validVersion value = true }

/-- `order`; no character stands for the end of the string. -/
def order : Option Char → Int
  | none => 0
  | some c => if c = '~' then -1 else if c.isDigit then 0 else if c.isAlpha then c.toNat else c.toNat + 256

def nichtZiffer (c : Char) : Bool := !c.isDigit

/-- The inner loop of `_part_compare`: its answer, or what is left of both strings. -/
def zeichen (left right : List Char) : Int ⊕ List Char × List Char :=
  if left.head?.any nichtZiffer || right.head?.any nichtZiffer then
    if order left.head? ≠ order right.head? then .inl (if order right.head? < order left.head? then 1 else -1)
    else zeichen left.tail right.tail
  else .inr (left, right)
termination_by left.length + right.length
decreasing_by
  rw [List.length_tail, List.length_tail]
  cases left <;> cases right <;> grind

theorem zeichen_length {left right left' right' : List Char} (read : zeichen left right = .inr (left', right')) :
    left'.length ≤ left.length ∧ right'.length ≤ right.length ∧
      left'.head?.any nichtZiffer = false ∧ right'.head?.any nichtZiffer = false := by
  fun_induction zeichen left right with
  | case1 => cases read
  | case2 left right some_ same ih =>
    obtain ⟨short, short', ends⟩ := ih read
    rw [List.length_tail] at short short'
    exact ⟨by omega, by omega, ends⟩
  | case3 left right ended =>
    obtain ⟨rfl, rfl⟩ := Prod.mk.inj (Sum.inr.inj read)
    rw [Bool.or_eq_true, not_or, Bool.not_eq_true, Bool.not_eq_true] at ended
    exact ⟨le_refl _, le_refl _, ended⟩

theorem dropWhile_length {s : List Char} (ended : s.head?.any nichtZiffer = false) :
    (s.dropWhile Char.isDigit).length + min s.length 1 ≤ s.length := by
  cases s with
  | nil => simp
  | cons c s =>
    have digit : c.isDigit = true := by simpa [nichtZiffer] using ended
    have short := (List.dropWhile_sublist Char.isDigit (l := s)).length_le
    rw [List.dropWhile_cons_of_pos digit, List.length_cons]
    omega

/-- `_part_compare` -/
def partCompare (left right : List Char) : Int :=
  if _both : left.isEmpty && right.isEmpty then 0
  else
    match read : zeichen left right with
    | .inl answer => answer
    | .inr (left', right') =>
      let a := (left'.takeWhile Char.isDigit).dropWhile (· = '0')
      let b := (right'.takeWhile Char.isDigit).dropWhile (· = '0')
      if (a.length, a) ≠ (b.length, b) then if b.length < a.length ∨ b.length = a.length ∧ b < a then 1 else -1
      else partCompare (left'.dropWhile Char.isDigit) (right'.dropWhile Char.isDigit)
termination_by left.length + right.length
decreasing_by
  obtain ⟨short, short', ends, ends'⟩ := zeichen_length read
  have less := dropWhile_length ends
  have less' := dropWhile_length ends'
  rw [Bool.and_eq_true, List.isEmpty_iff_length_eq_zero, List.isEmpty_iff_length_eq_zero] at _both
  omega

/-- `parts`: the epoch, the upstream version and the revision. -/
def parts (value : List Char) : Nat × List Char × List Char :=
  let (epoch, version) := match partition ':' value with
    | some (epoch, rest) => if isdigit epoch then (wert epoch, rest) else (0, value)
    | none => (0, value)
  match rpartition '-' version with
  | some (upstream, revision) => (epoch, upstream, revision)
  | none => (epoch, version, ['0'])

/-- `version_compare` -/
def versionCompare (left right : List Char) : Int :=
  let (epoch, upstream, revision) := parts left
  let (epoch', upstream', revision') := parts right
  let first := (if epoch' < epoch then 1 else 0) - if epoch < epoch' then 1 else 0
  if first ≠ 0 then first
  else
    let second := partCompare upstream upstream'
    if second ≠ 0 then second else partCompare revision revision'

/-- The run of other characters at the head of a string, followed by its end for ever. -/
def zeichenlauf (s : List Char) : Lex (ℕ → ℤ) := toLex fun n => order (s.takeWhile nichtZiffer)[n]?

def weiter (s : List Char) : List Char := (s.dropWhile nichtZiffer).dropWhile Char.isDigit

def lauf (s : List Char) : Lex (ℕ → ℤ) ×ₗ ℕ :=
  toLex (zeichenlauf s, wert ((s.dropWhile nichtZiffer).takeWhile Char.isDigit))

def laeufe (s : List Char) : Lex (ℕ → Lex (ℕ → ℤ) ×ₗ ℕ) := toLex fun n => lauf (weiter^[n] s)

/-- What a version is ordered by: the epoch, the upstream version, then the revision. -/
def schluessel (value : List Char) : ℕ ×ₗ Lex (ℕ → Lex (ℕ → ℤ) ×ₗ ℕ) ×ₗ Lex (ℕ → Lex (ℕ → ℤ) ×ₗ ℕ) :=
  toLex ((parts value).1, toLex (laeufe (parts value).2.1, laeufe (parts value).2.2))

section Zeichen

variable {c : Char} {s left right : List Char}

theorem order_ne_zero (other : nichtZiffer c = true) : order (some c) ≠ 0 := by
  have notDigit : c.isDigit = false := by simpa [nichtZiffer] using other
  simp only [order, notDigit, Bool.false_eq_true, if_false]
  split_ifs with tilde letter
  · decide
  · have code : c.toNat ≠ 0 := fun zero => by
      have null : c = Char.ofNat 0 := by rw [← zero, Char.ofNat_toNat]
      subst null
      exact absurd letter (by decide)
    omega
  · omega

theorem order_digit (digit : nichtZiffer c = false) : order (some c) = 0 := by
  have isDigit : c.isDigit = true := by simpa [nichtZiffer] using digit
  have noTilde : c ≠ '~' := fun same => absurd isDigit (same ▸ by decide)
  rw [order, if_neg noTilde, if_pos isDigit]

theorem order_head_eq_zero (ended : s.head?.any nichtZiffer = false) : order s.head? = 0 := by
  cases s with
  | nil => rfl
  | cons c s => exact order_digit (by simpa using ended)

theorem order_head_ne_zero (some_ : s.head?.any nichtZiffer = true) : order s.head? ≠ 0 := by
  cases s with
  | nil => cases some_
  | cons c s => exact order_ne_zero (by simpa using some_)

theorem zeichenlauf_zero (s : List Char) : ofLex (zeichenlauf s) 0 = order s.head? := by
  cases s with
  | nil => rfl
  | cons c s =>
    cases other : nichtZiffer c with
    | true => simp [zeichenlauf, other]
    | false =>
      rw [List.head?_cons, order_digit other]
      simp [zeichenlauf, other, order]

theorem zeichenlauf_rest (some_ : s.head?.any nichtZiffer = true) : rest (zeichenlauf s) = zeichenlauf s.tail := by
  cases s with
  | nil => cases some_
  | cons c s =>
    have other : nichtZiffer c = true := by simpa using some_
    funext n
    simp [rest, zeichenlauf, other]

theorem zeichenlauf_of_ended (ended : s.head?.any nichtZiffer = false) : zeichenlauf s = zeichenlauf [] ∧ s.dropWhile nichtZiffer = s := by
  cases s with
  | nil => exact ⟨rfl, rfl⟩
  | cons c s =>
    have other : nichtZiffer c = false := by simpa using ended
    simp [zeichenlauf, other]

theorem dropWhile_tail (some_ : s.head?.any nichtZiffer = true) : s.tail.dropWhile nichtZiffer = s.dropWhile nichtZiffer := by
  cases s with
  | nil => cases some_
  | cons c s =>
    have other : nichtZiffer c = true := by simpa using some_
    rw [List.dropWhile_cons_of_pos other, List.tail_cons]

theorem zeichen_signs (left right : List Char) : (∃ sign ≠ 0, zeichen left right = .inl sign ∧ Signs sign (zeichenlauf left) (zeichenlauf right)) ∨
    zeichen left right = .inr (left.dropWhile nichtZiffer, right.dropWhile nichtZiffer) ∧ zeichenlauf left = zeichenlauf right := by
  fun_induction zeichen left right with
  | case1 left right some_ different =>
    refine Or.inl ⟨_, by split_ifs <;> decide, rfl, ?_⟩
    rw [← zeichenlauf_zero, ← zeichenlauf_zero] at different ⊢
    split_ifs with more
    · exact Or.inr (Or.inr ⟨rfl, lt_iff.mpr (Or.inl more)⟩)
    · exact Or.inl ⟨rfl, lt_iff.mpr (Or.inl (lt_of_le_of_ne (not_lt.mp more) different))⟩
  | case2 left right some_ same ih =>
    rw [not_not] at same
    -- one of the characters is no digit, and the other has the same weight
    have both : left.head?.any nichtZiffer = true ∧ right.head?.any nichtZiffer = true := by
      rcases Bool.or_eq_true _ _ ▸ some_ with here | here
      · exact ⟨here, not_not.mp fun ended => order_head_ne_zero here (same.trans (order_head_eq_zero (Bool.not_eq_true _ ▸ ended)))⟩
      · exact ⟨not_not.mp fun ended => order_head_ne_zero here (same.symm.trans (order_head_eq_zero (Bool.not_eq_true _ ▸ ended))), here⟩
    have first : ofLex (zeichenlauf left) 0 = ofLex (zeichenlauf right) 0 := by rw [zeichenlauf_zero, zeichenlauf_zero, same]
    rw [← zeichenlauf_rest both.1, ← zeichenlauf_rest both.2, dropWhile_tail both.1, dropWhile_tail both.2] at ih
    rcases ih with ⟨sign, nonzero, answer, signs⟩ | ⟨goesOn, equal⟩
    · have later := Signs.sequence (Or.inr (Or.inl ⟨rfl, first⟩)) fun _ => signs
      exact Or.inl ⟨sign, nonzero, answer, by simpa using later⟩
    · exact Or.inr ⟨goesOn, eq_iff.mpr ⟨first, equal⟩⟩
  | case3 left right ended =>
    rw [Bool.or_eq_true, not_or, Bool.not_eq_true, Bool.not_eq_true] at ended
    obtain ⟨empty, stays⟩ := zeichenlauf_of_ended ended.1
    obtain ⟨empty', stays'⟩ := zeichenlauf_of_ended ended.2
    exact Or.inr ⟨by rw [stays, stays'], empty.trans empty'.symm⟩

end Zeichen

section Ziffern

variable {l m : List Char} {n k : Nat}

theorem ziffer_le {c : Char} (digit : c.isDigit = true) : 48 ≤ c.toNat ∧ c.toNat ≤ 57 := by
  simp only [Char.isDigit, Bool.and_eq_true, decide_eq_true_eq, UInt32.le_iff_toNat_le, ge_iff_le] at digit
  exact digit

theorem wert_lt_of_lt (digits : ∀ c ∈ l, c.isDigit = true) (short : l.length ≤ m.length) (less : n < k) :
    l.foldl ziffer n < m.foldl ziffer k := by
  induction m generalizing l n k with
  | nil =>
    rw [List.length_eq_zero_iff.mp (Nat.le_zero.mp short)]
    exact less
  | cons c m ih =>
    cases l with
    | nil =>
      have grown : n < ziffer k c := by
        rw [ziffer]
        omega
      exact ih (l := []) nofun (Nat.zero_le _) grown
    | cons d l =>
      have small := ziffer_le (digits d (List.mem_cons_self ..))
      have grown : ziffer n d < ziffer k c := by
        rw [ziffer, ziffer]
        omega
      rw [List.foldl_cons, List.foldl_cons]
      exact ih (fun e member => digits e (List.mem_cons_of_mem _ member)) (Nat.le_of_succ_le_succ short) grown

theorem wert_lt_of_lex (digits : ∀ c ∈ l, c.isDigit = true) (digits' : ∀ c ∈ m, c.isDigit = true) (same : l.length = m.length)
    (less : l < m) : l.foldl ziffer n < m.foldl ziffer n := by
  induction l generalizing m n with
  | nil =>
    rw [List.length_eq_zero_iff.mp same.symm] at less
    cases less
  | cons d l ih =>
    cases m with
    | nil => cases same
    | cons c m =>
      have later : ∀ e ∈ l, e.isDigit = true := fun e member => digits e (List.mem_cons_of_mem _ member)
      rw [List.foldl_cons, List.foldl_cons]
      rcases List.cons_lt_cons_iff.mp less with smaller | ⟨rfl, further⟩
      · have low := ziffer_le (digits d (List.mem_cons_self ..))
        have below : d.toNat < c.toNat := smaller
        have grown : ziffer n d < ziffer n c := by
          rw [ziffer, ziffer]
          omega
        exact wert_lt_of_lt later (Nat.succ.inj same).le grown
      · exact ih later (fun e member => digits' e (List.mem_cons_of_mem _ member)) (Nat.succ.inj same) further

theorem wert_dropWhile (s : List Char) : wert (s.dropWhile (· = '0')) = wert s := by
  induction s with
  | nil => rfl
  | cons c s ih =>
    by_cases zero : c = '0'
    · subst zero
      exact ih
    · rw [List.dropWhile_cons_of_neg (by simpa using zero)]

def Gekuerzt (s : List Char) : Prop := (∀ c ∈ s, c.isDigit = true) ∧ s.head? ≠ some '0'

theorem gekuerzt_ziffern (s : List Char) : Gekuerzt ((s.takeWhile Char.isDigit).dropWhile (· = '0')) := by
  refine ⟨fun c member => List.mem_takeWhile_imp ((List.dropWhile_sublist _).subset member), fun zero => ?_⟩
  have first := List.head?_dropWhile_not (· = '0') (s.takeWhile Char.isDigit)
  simp [zero] at first

theorem Gekuerzt.wert_lt (short : Gekuerzt l) (short' : Gekuerzt m) (less : l.length < m.length ∨ l.length = m.length ∧ l < m) :
    wert l < wert m := by
  rcases less with fewer | ⟨same, less⟩
  · cases m with
    | nil => cases fewer
    | cons c m =>
      have digit := ziffer_le (short'.1 c (List.mem_cons_self ..))
      have nonzero : c.toNat ≠ '0'.toNat := fun zero => short'.2 (congrArg some (Char.toNat_inj.mp zero))
      have zeroCode : '0'.toNat = 48 := rfl
      have grown : 0 < ziffer 0 c := by
        rw [ziffer]
        omega
      rw [wert, wert, List.foldl_cons]
      exact wert_lt_of_lt short.1 (Nat.le_of_lt_succ fewer) grown
  · exact wert_lt_of_lex short.1 short'.1 same less

theorem ziffern_signs (short : Gekuerzt l) (short' : Gekuerzt m) :
    Signs (if (l.length, l) ≠ (m.length, m) then if m.length < l.length ∨ m.length = l.length ∧ m < l then 1 else -1 else 0)
      (wert l) (wert m) := by
  split_ifs with different more
  · exact Or.inr (Or.inr ⟨rfl, short'.wert_lt short more⟩)
  · refine Or.inl ⟨rfl, short.wert_lt short' ?_⟩
    rcases lt_trichotomy l.length m.length with fewer | same | longer
    · exact Or.inl fewer
    · rcases lt_trichotomy l m with less | rfl | greater
      · exact Or.inr ⟨same, less⟩
      · exact absurd rfl different
      · exact absurd (Or.inr ⟨same.symm, greater⟩) more
    · exact absurd (Or.inl longer) more
  · exact Or.inr (Or.inl ⟨rfl, by rw [(Prod.mk.inj (not_not.mp different)).2]⟩)

end Ziffern

theorem laeufe_signs {left right left' right' : List Char} {sign t : Int} (read : zeichen left right = .inr (left', right'))
    (digits : Signs sign (wert ((left'.takeWhile Char.isDigit).dropWhile (· = '0')))
      (wert ((right'.takeWhile Char.isDigit).dropWhile (· = '0'))))
    (later : sign = 0 → Signs t (laeufe (left'.dropWhile Char.isDigit)) (laeufe (right'.dropWhile Char.isDigit))) :
    Signs (if sign ≠ 0 then sign else t) (laeufe left) (laeufe right) := by
  rcases zeichen_signs left right with ⟨_, -, answered, -⟩ | ⟨goesOn, same⟩
  · rw [read] at answered
    cases answered
  · obtain ⟨rfl, rfl⟩ := Prod.mk.inj (Sum.inr.inj (read.symm.trans goesOn))
    rw [wert_dropWhile, wert_dropWhile] at digits
    have first : Signs sign (lauf left) (lauf right) := by
      rw [lauf, lauf]
      simpa using Signs.pair (Or.inr (Or.inl ⟨rfl, same⟩)) fun _ => digits
    exact Signs.sequence (y := laeufe right) first later

theorem partCompare_signs (left right : List Char) : Signs (partCompare left right) (laeufe left) (laeufe right) := by
  have digits (s t : List Char) := ziffern_signs (gekuerzt_ziffern s) (gekuerzt_ziffern t)
  fun_induction partCompare left right with
  | case1 left right both =>
    rw [Bool.and_eq_true, List.isEmpty_iff, List.isEmpty_iff] at both
    exact Or.inr (Or.inl ⟨rfl, by rw [both.1, both.2]⟩)
  | case2 left right _ answer read =>
    rcases zeichen_signs left right with ⟨sign, nonzero, answered, signs⟩ | ⟨goesOn, -⟩
    · obtain rfl := Sum.inl.inj (read.symm.trans answered)
      have first : Signs answer (lauf left) (lauf right) := by
        rw [lauf, lauf]
        exact signs.pair_of_first nonzero
      exact Signs.sequence_of_first (y := laeufe right) first nonzero
    · rw [read] at goesOn
      cases goesOn
  | case3 left right _ left' right' read a b different more =>
    have one := digits left' right'
    rw [if_pos different, if_pos more] at one
    simpa using laeufe_signs (t := 0) read one nofun
  | case4 left right _ left' right' read a b different less =>
    have one := digits left' right'
    rw [if_pos different, if_neg less] at one
    simpa using laeufe_signs (t := 0) read one nofun
  | case5 left right _ left' right' read a b same ih =>
    have one := digits left' right'
    rw [if_neg same] at one
    simpa using laeufe_signs read one fun _ => ih

theorem versionCompare_signs (left right : List Char) : Signs (versionCompare left right) (schluessel left) (schluessel right) := by
  have epochs : Signs ((if (parts right).1 < (parts left).1 then 1 else 0) - if (parts left).1 < (parts right).1 then 1 else 0)
      (parts left).1 (parts right).1 := by
    rcases lt_trichotomy (parts left).1 (parts right).1 with less | same | more
    · exact Or.inl ⟨by simp [less, less.not_gt], less⟩
    · exact Or.inr (Or.inl ⟨by simp [same], same⟩)
    · exact Or.inr (Or.inr ⟨by simp [more, more.not_gt], more⟩)
  exact Signs.pair epochs fun _ => Signs.pair (partCompare_signs _ _) fun _ => partCompare_signs _ _

end Einsatzcockpit.Agent
