import Anbox.Qemu.QemudMessageProcessor
import Mathlib.Data.Nat.Digits.Lemmas

namespace Anbox.Qemu.QemudMessageProcessor

/-! The header, as it is sent. -/

def hexchar (d : Nat) : UInt8 := UInt8.ofNat (if d < 10 then 48 + d else 87 + d)

/-- The digits of `%04zx`, the highest in front. -/
def digits04 (n : Nat) : List Nat :=
  (Nat.digits 16 n ++ List.replicate (4 - (Nat.digits 16 n).length) 0).reverse

def snprintf04zx (n : Nat) : List UInt8 := (digits04 n).map hexchar

/-- The buffer has room for four characters, and four are sent. -/
def sendHeader (size : Nat) : List UInt8 := (snprintf04zx size).take headerSize

/-! What is wanted. -/

/-- The number that hexadecimal digits stand for. -/
def hexValue (header : List UInt8) : Option Nat :=
  if header.all fun c => (hexDigit c).isSome then some (hexNumber 0 header) else none

/-- The size that is sent is the size that is received; and what is received is four digits, or is
refused whatever follows. -/
structure Faithful (stack : List UInt8) (size : Nat) (header : List UInt8) : Prop where
  sent : bodySize stack (sendHeader size) = size
  digits : ∀ n, hexValue header = some n → bodySize stack header = n
  others : hexValue header = none → ∀ data, (processData stack init (header ++ data)).1 = false

/-! Digits. -/

theorem hexDigit_hexchar {d : Nat} (h : d < 16) : hexDigit (hexchar d) = some d := by
  revert d
  decide

theorem digits04_lt {n d : Nat} (h : d ∈ digits04 n) : d < 16 := by
  rw [digits04, List.mem_reverse, List.mem_append] at h
  cases h with
  | inl h => exact Nat.digits_lt_base (by decide) h
  | inr h =>
    rw [List.eq_of_mem_replicate h]
    decide

theorem ofDigits_digits04 (n : Nat) : Nat.ofDigits 16 (digits04 n).reverse = n := by
  rw [digits04, List.reverse_reverse, Nat.ofDigits_append_replicate_zero, Nat.ofDigits_digits]

theorem length_digits04 (n : Nat) : (digits04 n).length = max 4 (Nat.digits 16 n).length := by
  rw [digits04, List.length_reverse, List.length_append, List.length_replicate]
  omega

theorem hexNumber_map {ds : List Nat} (lt : ∀ d ∈ ds, d < 16) (n : Nat) :
    hexNumber n (ds.map hexchar) = n * 16^ds.length + Nat.ofDigits 16 ds.reverse := by
  induction ds generalizing n with
  | nil => simp [hexNumber]
  | cons d ds ih =>
    obtain ⟨first, later⟩ := List.forall_mem_cons.mp lt
    simp only [List.map_cons, hexNumber, hexDigit_hexchar first, ih later, List.length_cons,
      List.reverse_cons, Nat.ofDigits_append, List.length_reverse, Nat.ofDigits_singleton]
    ring

/-! Both directions. -/

theorem sendHeader_hex (size : Nat) : ∀ c ∈ sendHeader size, hexDigit c ≠ none := by
  intro c hc
  obtain ⟨d, hd, rfl⟩ := List.mem_map.mp (List.mem_of_mem_take hc)
  rw [hexDigit_hexchar (digits04_lt hd)]
  exact Option.some_ne_none d

theorem length_sendHeader (size : Nat) : (sendHeader size).length = headerSize := by
  rw [sendHeader, List.length_take, snprintf04zx, List.length_map, length_digits04, headerSize]
  omega

theorem bodySize_digits (stack : List UInt8) {header : List UInt8}
    (four : header.length = headerSize) (hex : ∀ c ∈ header, hexDigit c ≠ none) :
    bodySize stack header = hexNumber 0 header := by
  rw [bodySize, ← four, List.take_length, sscanf_digits four hex]

/-- Four digits stand for a number below `16^4`. -/
theorem bodySize_sendHeader_lt (stack : List UInt8) (size : Nat) :
    bodySize stack (sendHeader size) < 16^4 := by
  have lt := hexNumber_lt 0 (sendHeader size)
  rw [length_sendHeader] at lt
  rw [bodySize_digits stack (length_sendHeader size) (sendHeader_hex size)]
  simpa [headerSize] using lt

theorem bodySize_sendHeader (stack : List UInt8) {size : Nat} (fits : size < 16^4) :
    bodySize stack (sendHeader size) = size := by
  have few : (Nat.digits 16 size).length ≤ 4 := (Nat.digits_length_le_iff (by decide) size).mpr fits
  have all : sendHeader size = snprintf04zx size := by
    apply List.take_of_length_le
    rw [snprintf04zx, List.length_map, length_digits04, headerSize]
    omega
  rw [bodySize_digits stack (length_sendHeader size) (sendHeader_hex size), all, snprintf04zx,
    hexNumber_map fun d hd => digits04_lt hd, ofDigits_digits04, Nat.zero_mul, Nat.zero_add]

theorem all_digits {header : List UInt8} : (header.all fun c => (hexDigit c).isSome) = true ↔
    ∀ c ∈ header, hexDigit c ≠ none := by
  simp only [List.all_eq_true, Option.isSome_iff_ne_none]

theorem hexValue_eq_none {header : List UInt8} :
    hexValue header = none ↔ ¬ ∀ c ∈ header, hexDigit c ≠ none := by
  rw [hexValue, ite_eq_right_iff, ← all_digits]
  exact ⟨fun h hex => (by cases h hex), fun other hex => absurd hex other⟩

/-- A size is sent faithfully exactly when it fits into four digits, and a header is taken for what
it is exactly when it consists of digits: no header is ever refused. -/
theorem header_faithful_iff (stack : List UInt8) (size : Nat) (c₁ c₂ c₃ c₄ : UInt8) :
    Faithful stack size [c₁, c₂, c₃, c₄] ↔
      size < 16^4 ∧ ∀ c ∈ [c₁, c₂, c₃, c₄], hexDigit c ≠ none := by
  constructor
  · intro h
    refine ⟨h.sent ▸ bodySize_sendHeader_lt stack size, ?_⟩
    by_contra other
    have refused := h.others (hexValue_eq_none.mpr other) []
    rw [processData_true] at refused
    cases refused
  · intro h
    obtain ⟨fits, hex⟩ := h
    refine ⟨bodySize_sendHeader stack fits, ?_, ?_⟩
    · intro n hn
      rw [hexValue, if_pos (all_digits.mpr hex)] at hn
      rw [bodySize_digits stack rfl hex]
      exact Option.some.inj hn
    · intro none
      exact absurd hex (hexValue_eq_none.mp none)

-- `-001` is four thousand million bytes, less one; `0x1f` and a text without a digit have sizes too.
example : bodySize [] [45, 48, 48, 49] = 2^32 - 1 ∧ bodySize [] [48, 120, 49, 102] = 31 ∧
    bodySize [] [122, 122, 122, 122] = 0 := by
  decide

/-- `65536` is sent as `1000`. -/
theorem wide_size_not_faithful : ¬ ∀ (stack : List UInt8) (size : Nat) (c₁ c₂ c₃ c₄ : UInt8),
    size < 2^64 → Faithful stack size [c₁, c₂, c₃, c₄] := by
  intro h
  have sent := (h [] (16^4) 48 48 48 48 (by decide)).sent
  have lt := bodySize_sendHeader_lt [] (16^4)
  rw [sent] at lt
  exact absurd lt (Nat.lt_irrefl _)

end Anbox.Qemu.QemudMessageProcessor
