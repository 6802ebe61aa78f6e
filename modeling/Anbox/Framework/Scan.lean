import Mathlib.Data.List.TakeWhile

namespace Anbox.Framework

/-! Numbers, as `%d` reads them off the front of a text. -/

def isBlank (c : UInt8) : Bool := c = 32 || (9 ≤ c && c ≤ 13)

def isDigit (c : UInt8) : Bool := 48 ≤ c && c ≤ 57

/-- The number that decimal digits stand for. -/
def decimal (digits : List UInt8) : Nat := digits.foldl (fun n d => 10*n + (d.toNat - 48)) 0

def scanDigits (cs : List UInt8) : Option Nat :=
  if cs.takeWhile isDigit = [] then none else some (decimal (cs.takeWhile isDigit))

inductive Sign where
  | none
  | plus
  | minus
  deriving DecidableEq

def Sign.apply : Sign → Nat → Int
  | none, n | plus, n => n
  | minus, n => -n

def scanSigned : List UInt8 → Option Int
  | 45 :: cs => (scanDigits cs).map Sign.minus.apply
  | 43 :: cs => (scanDigits cs).map Sign.plus.apply
  | cs => (scanDigits cs).map Sign.none.apply

def scanInt (cs : List UInt8) : Option Int := scanSigned (cs.dropWhile isBlank)

/-! What is read. -/

def Sign.text : Sign → List UInt8
  | none => []
  | plus => [43]
  | minus => [45]

/-- Behind blanks and a sign, some digits stand for the number, as many as there are. -/
structure Written (cs : List UInt8) (n : Int) (blanks : List UInt8) (sign : Sign)
    (digits tail : List UInt8) : Prop where
  parts : cs = blanks ++ (sign.text ++ (digits ++ tail))
  blank : ∀ c ∈ blanks, isBlank c = true
  some_digit : digits ≠ []
  digit : ∀ c ∈ digits, isDigit c = true
  all_digits : ∀ c ∈ tail.head?, isDigit c = false
  number : n = sign.apply (decimal digits)

def Writes (cs : List UInt8) (n : Int) : Prop :=
  ∃ blanks sign digits tail, Written cs n blanks sign digits tail

theorem takeWhile_append_stop {α : Type*} {p : α → Bool} {as bs : List α} (all : ∀ a ∈ as, p a = true)
    (stop : ∀ b ∈ bs.head?, p b = false) : (as ++ bs).takeWhile p = as := by
  rw [List.takeWhile_append_of_pos all]
  cases bs with
  | nil => simp
  | cons b bs =>
    rw [List.takeWhile_cons_of_neg (by simpa using stop b rfl), List.append_nil]

theorem dropWhile_append_stop {α : Type*} {p : α → Bool} {as bs : List α} (all : ∀ a ∈ as, p a = true)
    (stop : ∀ b ∈ bs.head?, p b = false) : (as ++ bs).dropWhile p = bs := by
  rw [List.dropWhile_append_of_pos all]
  cases bs with
  | nil => rfl
  | cons b bs => exact List.dropWhile_cons_of_neg (by simpa using stop b rfl)

theorem scanDigits_some {cs : List UInt8} {n : Nat} (h : scanDigits cs = some n) :
    ∃ digits tail, cs = digits ++ tail ∧ digits ≠ [] ∧ (∀ c ∈ digits, isDigit c = true) ∧
      (∀ c ∈ tail.head?, isDigit c = false) ∧ n = decimal digits := by
  obtain ⟨some_digit, same⟩ := Option.ite_none_left_eq_some.mp h
  refine ⟨cs.takeWhile isDigit, cs.dropWhile isDigit, (List.takeWhile_append_dropWhile).symm,
    some_digit, fun c hc => List.mem_takeWhile_imp hc, ?_, (Option.some.inj same).symm⟩
  intro c hc
  have stopped := List.head?_dropWhile_not isDigit cs
  rw [Option.mem_def.mp hc] at stopped
  exact (Bool.not_eq_true _).mp (by simpa using stopped)

theorem scanDigits_append {digits tail : List UInt8} (some_digit : digits ≠ [])
    (digit : ∀ c ∈ digits, isDigit c = true) (all_digits : ∀ c ∈ tail.head?, isDigit c = false) :
    scanDigits (digits ++ tail) = some (decimal digits) := by
  rw [scanDigits, takeWhile_append_stop digit all_digits, if_neg some_digit]

/-- A sign is read where there is one. -/
theorem scanSigned_append (sign : Sign) {digits tail : List UInt8} (some_digit : digits ≠ [])
    (digit : ∀ c ∈ digits, isDigit c = true) (all_digits : ∀ c ∈ tail.head?, isDigit c = false) :
    scanSigned (sign.text ++ (digits ++ tail)) = some (sign.apply (decimal digits)) := by
  have scanned := scanDigits_append some_digit digit all_digits
  cases sign with
  | plus => simp [Sign.text, scanSigned, scanned, Sign.apply]
  | minus => simp [Sign.text, scanSigned, scanned, Sign.apply]
  | none =>
    obtain ⟨d, ds, rfl⟩ := List.exists_cons_of_ne_nil some_digit
    have first := digit d List.mem_cons_self
    rw [Sign.text, List.nil_append, scanSigned, scanned]
    · rfl
    · rintro cs same
      obtain ⟨rfl, -⟩ := List.cons.inj same
      exact absurd first (by decide)
    · rintro cs same
      obtain ⟨rfl, -⟩ := List.cons.inj same
      exact absurd first (by decide)

theorem scanSigned_some {cs : List UInt8} {n : Int} (h : scanSigned cs = some n) :
    ∃ sign digits tail, Written cs n [] sign digits tail := by
  unfold scanSigned at h
  split at h
  · obtain ⟨k, hk, rfl⟩ := Option.map_eq_some_iff.mp h
    obtain ⟨digits, tail, rfl, some_digit, digit, all_digits, rfl⟩ := scanDigits_some hk
    exact ⟨.minus, digits, tail, rfl, nofun, some_digit, digit, all_digits, rfl⟩
  · obtain ⟨k, hk, rfl⟩ := Option.map_eq_some_iff.mp h
    obtain ⟨digits, tail, rfl, some_digit, digit, all_digits, rfl⟩ := scanDigits_some hk
    exact ⟨.plus, digits, tail, rfl, nofun, some_digit, digit, all_digits, rfl⟩
  · obtain ⟨k, hk, rfl⟩ := Option.map_eq_some_iff.mp h
    obtain ⟨digits, tail, rfl, some_digit, digit, all_digits, rfl⟩ := scanDigits_some hk
    exact ⟨.none, digits, tail, rfl, nofun, some_digit, digit, all_digits, rfl⟩

theorem not_blank_head {sign : Sign} {digits tail : List UInt8} (some_digit : digits ≠ [])
    (digit : ∀ c ∈ digits, isDigit c = true) :
    ∀ c ∈ (sign.text ++ (digits ++ tail)).head?, isBlank c = false := by
  obtain ⟨d, ds, rfl⟩ := List.exists_cons_of_ne_nil some_digit
  have first := digit d List.mem_cons_self
  cases sign with
  | plus =>
    rintro c ⟨rfl⟩
    rfl
  | minus =>
    rintro c ⟨rfl⟩
    rfl
  | none =>
    rintro c ⟨rfl⟩
    revert first
    simp only [isDigit, isBlank, Bool.and_eq_true, decide_eq_true_eq, Bool.or_eq_false_iff,
      decide_eq_false_iff_not, Bool.and_eq_false_iff, UInt8.le_iff_toNat_le, ← UInt8.toNat_inj,
      UInt8.reduceToNat]
    omega

theorem scanInt_iff {cs : List UInt8} {n : Int} : scanInt cs = some n ↔ Writes cs n := by
  constructor
  · intro h
    obtain ⟨sign, digits, tail, parts, -, some_digit, digit, all_digits, number⟩ :=
      scanSigned_some h
    refine ⟨cs.takeWhile isBlank, sign, digits, tail, ?_, fun c hc => List.mem_takeWhile_imp hc,
      some_digit, digit, all_digits, number⟩
    rw [List.nil_append] at parts
    rw [← parts, List.takeWhile_append_dropWhile]
  · intro h
    obtain ⟨blanks, sign, digits, tail, rfl, blank, some_digit, digit, all_digits, rfl⟩ := h
    rw [scanInt, dropWhile_append_stop blank (not_blank_head some_digit digit),
      scanSigned_append sign some_digit digit all_digits]

end Anbox.Framework
