import Anbox.Framework.Framing
import Anbox.Framework.Run
import Mathlib.Tactic.Linarith
import Mathlib.Tactic.NormNum
import Mathlib.Tactic.Positivity
import Mathlib.Tactic.Ring

namespace Anbox.Qemu.QemudMessageProcessor

open Anbox.Framework

def headerSize : Nat := 4

/-! The header, as `sscanf` reads it. -/

def hexDigit (c : UInt8) : Option Nat :=
  if 48 ≤ c ∧ c ≤ 57 then some (c.toNat - 48)
  else if 97 ≤ c ∧ c ≤ 102 then some (c.toNat - 87)
  else if 65 ≤ c ∧ c ≤ 70 then some (c.toNat - 55)
  else none

/-- The number the hexadecimal digits at the front stand for, behind the digits read so far. -/
def hexNumber : Nat → List UInt8 → Nat
  | n, [] => n
  | n, c :: cs =>
    match hexDigit c with
    | some d => hexNumber (16*n + d) cs
    | none => n

def isSpace (c : UInt8) : Bool := c = 32 || (9 ≤ c && c ≤ 13)

def skip0x : List UInt8 → List UInt8
  | 48 :: x :: cs => if x = 120 ∨ x = 88 then cs else 48 :: x :: cs
  | cs => cs

/-- `sscanf(s, "%04x", &bodySize)` with `bodySize` zero before the call: white space does not
count for the width, a sign and a `0x` do, and without a digit nothing is stored. -/
def sscanf04x (s : List UInt8) : Nat :=
  match (s.dropWhile isSpace).take 4 with
  | 45 :: cs => (2^32 - hexNumber 0 (skip0x cs)) % 2^32
  | 43 :: cs => hexNumber 0 (skip0x cs)
  | cs => hexNumber 0 (skip0x cs)

/-- `stack` is what lies behind `header`, which no zero byte ends. -/
def bodySize (stack buffer : List UInt8) : Nat := sscanf04x (buffer.take headerSize ++ stack)

variable (stack : List UInt8)

/-! The loop. -/

/-- `handled` records the commands `handleCommand` was called with. -/
structure State where
  buffer_ : List UInt8
  handled : List (List UInt8)
  deriving DecidableEq

def init : State := ⟨[], []⟩

/-- What is left of `size` bytes, computed on `size_t`. -/
def remaining (size consumed : Nat) : Nat :=
  if consumed ≤ size then size - consumed else 2^64 - (consumed - size)

/-- One pass through the body of the loop; `true` when the loop goes on. -/
def pass (s : State) : Bool × State :=
  if s.buffer_.length < headerSize then (false, s)
  else
    let totalSize := headerSize + bodySize stack s.buffer_
    if s.buffer_.length < totalSize then (false, s)
    else
      let command := (s.buffer_.drop headerSize).take (bodySize stack s.buffer_)
      let consumed := headerSize + bodySize stack s.buffer_
      let buffer := s.buffer_.drop consumed
      -- `buffer_` has been erased already when its size is taken
      (decide ¬ remaining buffer.length consumed ≤ 0, ⟨buffer, s.handled ++ [command]⟩)

theorem pass_length {s t : State} (h : pass stack s = (true, t)) :
    t.buffer_.length < s.buffer_.length := by
  simp only [pass] at h
  split_ifs at h with hs ht
  · simp at h
  · simp at h
  · obtain ⟨-, rfl⟩ := Prod.mk.inj h
    simp only [headerSize, List.length_drop] at hs ht ⊢
    omega

def processCommands (s : State) : Bool × State :=
  match _h : pass stack s with
  | (true, t) => processCommands t
  | (false, t) => (true, t)
termination_by s.buffer_.length
decreasing_by exact pass_length stack _h

def processData (s : State) (data : List UInt8) : Bool × State :=
  processCommands stack ⟨s.buffer_ ++ data, s.handled⟩

/-- One call, for a run over the chunks of a stream. -/
def call (s : State) (data : List UInt8) : Option State := some (processData stack s data).2

theorem processCommands_pass (s : State) :
    processCommands stack s =
      if (pass stack s).1 then processCommands stack (pass stack s).2
      else (true, (pass stack s).2) := by
  rw [processCommands]
  split <;> rename_i h <;> rw [h] <;> rfl

/-- No chunk makes the connection end. -/
theorem processData_true (s : State) (data : List UInt8) : (processData stack s data).1 = true := by
  unfold processData
  generalize s.buffer_ ++ data = b
  generalize s.handled = hs
  induction hn : b.length using Nat.strongRecOn generalizing b hs with
  | _ n ih =>
    rw [processCommands_pass]
    split_ifs with h
    · have hp : pass stack ⟨b, hs⟩ = (true, (pass stack ⟨b, hs⟩).2) := Prod.ext h rfl
      exact ih _ (hn ▸ pass_length stack hp) _ _ rfl
    · rfl

/-! Frames. -/

/-- The first whole frame of a buffer: its command, and the bytes behind it. -/
def nextCommand (b : List UInt8) : Option (List UInt8 × List UInt8) :=
  if b.length < headerSize then none
  else if b.length < headerSize + bodySize stack b then none
  else some ((b.drop headerSize).take (bodySize stack b),
    b.drop (headerSize + bodySize stack b))

theorem nextCommand_some {b f r : List UInt8} :
    nextCommand stack b = some (f, r) ↔
      headerSize + bodySize stack b ≤ b.length ∧
      f = (b.drop headerSize).take (bodySize stack b) ∧
      r = b.drop (headerSize + bodySize stack b) := by
  unfold nextCommand
  split_ifs with hs ht
  · constructor
    · intro h
      cases h
    · intro h
      omega
  · constructor
    · intro h
      cases h
    · intro h
      omega
  · have hb : headerSize + bodySize stack b ≤ b.length := Nat.le_of_not_lt ht
    simp [hb, eq_comm]

theorem bodySize_append {b : List UInt8} (h : headerSize ≤ b.length) (c : List UInt8) :
    bodySize stack (b ++ c) = bodySize stack b := by
  rw [bodySize,bodySize,List.take_append_of_le_length h]

def commandFrames : FrameReader UInt8 (List UInt8) where
  next := nextCommand stack
  next_length := by
    intro b f r h
    obtain ⟨hb, rfl, rfl⟩ := (nextCommand_some stack).mp h
    simp only [headerSize, List.length_drop] at hb ⊢
    omega
  next_append := by
    intro b f r c h
    obtain ⟨hb, rfl, rfl⟩ := (nextCommand_some stack).mp h
    have hs : bodySize stack (b ++ c) = bodySize stack b := bodySize_append stack (by omega) c
    have hd : (b.drop headerSize).length = b.length - headerSize := List.length_drop
    rw [nextCommand_some, hs, List.length_append]
    refine ⟨by omega, ?_, ?_⟩
    · rw [List.drop_append_of_le_length (by omega), List.take_append_of_le_length (by omega)]
    · rw [List.drop_append_of_le_length hb]

variable {stack}

theorem hexDigit_lt {c : UInt8} {d : Nat} (h : hexDigit c = some d) : d < 16 := by
  simp only [hexDigit, UInt8.le_iff_toNat_le, UInt8.reduceToNat] at h
  split_ifs at h <;> simp only [Option.some.injEq] at h <;> omega

theorem hexNumber_lt (n : Nat) (cs : List UInt8) :
    hexNumber n cs < (n + 1) * 16^cs.length := by
  induction cs generalizing n with
  | nil => simp [hexNumber]
  | cons c cs ih =>
    have pos : 0 < 16^cs.length := by positivity
    cases hd : hexDigit c with
    | none =>
      simp only [hexNumber, hd, List.length_cons, pow_succ]
      nlinarith
    | some d =>
      have lt := hexDigit_lt hd
      have hn := ih (16*n + d)
      have le : (16*n + d + 1) * 16^cs.length ≤ 16 * (n + 1) * 16^cs.length :=
        Nat.mul_le_mul_right _ (by omega)
      simp only [hexNumber, hd, List.length_cons, pow_succ]
      calc
        _ < (16*n + d + 1) * 16^cs.length := hn
        _ ≤ 16 * (n + 1) * 16^cs.length := le
        _ = (n + 1) * (16^cs.length * 16) := by ring

theorem skip0x_length (cs : List UInt8) : (skip0x cs).length ≤ cs.length := by
  unfold skip0x
  split
  · split_ifs
    · simp only [List.length_cons]
      omega
    · exact le_rfl
  · exact le_rfl

theorem hexNumber_skip_lt {cs : List UInt8} (h : cs.length ≤ 4) :
    hexNumber 0 (skip0x cs) < 2^32 := by
  calc
    hexNumber 0 (skip0x cs) < (0 + 1) * 16^(skip0x cs).length := hexNumber_lt 0 _
    _ ≤ (0 + 1) * 16^4 :=
      Nat.mul_le_mul_left _ (Nat.pow_le_pow_right (by omega) ((skip0x_length cs).trans h))
    _ < 2^32 := by norm_num

theorem sscanf04x_lt (s : List UInt8) : sscanf04x s < 2^32 := by
  have four : ((s.dropWhile isSpace).take 4).length ≤ 4 := List.length_take_le _ _
  unfold sscanf04x
  split
  · exact Nat.mod_lt _ (by norm_num)
  · rename_i cs h
    rw [h, List.length_cons] at four
    exact hexNumber_skip_lt (by omega)
  · exact hexNumber_skip_lt four

theorem remaining_eq_zero {size consumed : Nat} (h : consumed < 2^64) :
    remaining size consumed ≤ 0 ↔ size = consumed := by
  unfold remaining
  split_ifs with hc <;> omega

variable {b f r : List UInt8}

/-- A pass over a whole frame: it goes on unless what is left is as long as the frame was. -/
theorem pass_frame (h : nextCommand stack b = some (f, r)) (hs : List (List UInt8)) :
    pass stack ⟨b, hs⟩ = (decide (r.length ≠ headerSize + f.length), ⟨r, hs ++ [f]⟩) := by
  obtain ⟨hb, hf, hr⟩ := (nextCommand_some stack).mp h
  have size := sscanf04x_lt (b.take headerSize ++ stack)
  change bodySize stack b < 2^32 at size
  have hl : f.length = bodySize stack b := by
    rw [hf, List.length_take, List.length_drop]
    omega
  have short : ¬ b.length < headerSize := by omega
  have wait : ¬ b.length < headerSize + bodySize stack b := by omega
  have lt : headerSize + bodySize stack b < 2^64 := by
    simp only [headerSize]
    omega
  simp only [pass, short, wait, if_false, remaining_eq_zero lt, ← hf, ← hr, hl, ne_eq]

theorem pass_wait (h : nextCommand stack b = none) (hs : List (List UInt8)) :
    pass stack ⟨b, hs⟩ = (false, ⟨b, hs⟩) := by
  unfold nextCommand at h
  unfold pass
  split_ifs at h with short wait
  · rw [if_pos short]
  · rw [if_neg short, if_pos wait]

theorem processCommands_frame (h : nextCommand stack b = some (f, r)) (hs : List (List UInt8)) :
    processCommands stack ⟨b, hs⟩ =
      if r.length = headerSize + f.length then (true, ⟨r, hs ++ [f]⟩)
      else processCommands stack ⟨r, hs ++ [f]⟩ := by
  rw [processCommands_pass, pass_frame h]
  split_ifs with he hc hc
  · simp [hc] at he
  · rfl
  · rfl
  · simp [hc] at he

theorem processCommands_wait (h : nextCommand stack b = none) (hs : List (List UInt8)) :
    processCommands stack ⟨b, hs⟩ = (true, ⟨b, hs⟩) := by
  rw [processCommands_pass, pass_wait h]
  rfl

variable (stack) in
/-- Whatever a call leaves behind, no command is lost: those handled and those still in the buffer
are the commands of all bytes received. -/
theorem processCommands_frames (b : List UInt8) (hs : List (List UInt8)) :
    (processCommands stack ⟨b, hs⟩).2.handled ++
        (commandFrames stack).frames (processCommands stack ⟨b, hs⟩).2.buffer_ =
      hs ++ (commandFrames stack).frames b ∧
    (commandFrames stack).rest (processCommands stack ⟨b, hs⟩).2.buffer_ =
      (commandFrames stack).rest b := by
  induction b using (commandFrames stack).induction_frames generalizing hs with
  | none b h =>
    rw [processCommands_wait h]
    exact ⟨rfl, rfl⟩
  | some b f r h ih =>
    rw [processCommands_frame h, FrameReader.frames_some h, FrameReader.rest_some h]
    split_ifs
    · exact ⟨List.append_cons _ _ _ |>.symm, rfl⟩
    · obtain ⟨handled, rest⟩ := ih (hs ++ [f])
      exact ⟨handled.trans (List.append_cons _ _ _).symm, rest⟩

/-! Where the loop stops early. -/

variable (stack) in
/-- Behind some frame of the buffer another one follows, and what follows is in all as long as the
frame. -/
def Stalls (b : List UInt8) : Prop :=
  ∃ i f, i + 1 < ((commandFrames stack).frames b).length ∧
    ((commandFrames stack).frames b)[i]? = some f ∧
    ((commandFrames stack).behind (i + 1) b).length = headerSize + f.length

theorem stalls_wait (h : nextCommand stack b = none) : ¬ Stalls stack b := by
  intro hs
  obtain ⟨i, f, hi, -⟩ := hs
  rw [FrameReader.frames_none h] at hi
  simp at hi

theorem frames_pos : 0 < ((commandFrames stack).frames b).length ↔ nextCommand stack b ≠ none := by
  constructor
  · intro h hn
    rw [FrameReader.frames_none hn] at h
    simp at h
  · intro h
    obtain ⟨p, hp⟩ := Option.ne_none_iff_exists'.mp h
    rw [FrameReader.frames_some (f := p.1) (r := p.2) hp]
    simp

theorem stalls_frame (h : nextCommand stack b = some (f, r)) :
    Stalls stack b ↔
      nextCommand stack r ≠ none ∧ r.length = headerSize + f.length ∨ Stalls stack r := by
  have frames : (commandFrames stack).frames b = f :: (commandFrames stack).frames r :=
    FrameReader.frames_some h
  have behind (n : Nat) :
      (commandFrames stack).behind (n + 1) b = (commandFrames stack).behind n r :=
    FrameReader.behind_succ h n
  unfold Stalls
  simp only [frames, behind, List.length_cons, Nat.add_lt_add_iff_right]
  constructor
  · intro hs
    obtain ⟨i, g, hi, hg, hl⟩ := hs
    cases i with
    | zero =>
      obtain rfl : f = g := by simpa using hg
      exact Or.inl ⟨frames_pos.mp hi, hl⟩
    | succ i => exact Or.inr ⟨i, g, hi, by simpa using hg, hl⟩
  · intro hs
    cases hs with
    | inl hs => exact ⟨0, f, frames_pos.mpr hs.1, rfl, hs.2⟩
    | inr hs =>
      obtain ⟨i, g, hi, hg, hl⟩ := hs
      exact ⟨i + 1, g, hi, by simpa using hg, hl⟩

/-- A call leaves no whole frame behind, unless it stops behind a frame as long as what follows. -/
theorem processCommands_drains (b : List UInt8) (hs : List (List UInt8)) :
    nextCommand stack (processCommands stack ⟨b, hs⟩).2.buffer_ = none ↔ ¬ Stalls stack b := by
  induction b using (commandFrames stack).induction_frames generalizing hs with
  | none b h =>
    rw [processCommands_wait h]
    exact ⟨fun _ => stalls_wait h, fun _ => h⟩
  | some b f r h ih =>
    rw [processCommands_frame h, stalls_frame h]
    split_ifs with he
    · have tail : nextCommand stack r = none → ¬ Stalls stack r := stalls_wait
      simp only [he, and_true, not_or, not_not]
      exact ⟨fun hn => ⟨hn, tail hn⟩, And.left⟩
    · rw [ih (hs ++ [f])]
      simp [he]

/-! Streams of commands. -/

/-- A command as it is sent: four hexadecimal digits, in either case, with the length of its body. -/
structure Command where
  digits : List UInt8
  body : List UInt8
  four : digits.length = headerSize
  hex : ∀ c ∈ digits, hexDigit c ≠ none
  size : hexNumber 0 digits = body.length

def Command.encode (c : Command) : List UInt8 := c.digits ++ c.body

theorem not_space {c : UInt8} (h : hexDigit c ≠ none) : isSpace c = false := by
  by_contra hc
  apply h
  simp only [isSpace, Bool.not_eq_false, Bool.or_eq_true, Bool.and_eq_true, decide_eq_true_eq,
    UInt8.le_iff_toNat_le, UInt8.reduceToNat, ← UInt8.toNat_inj] at hc
  simp only [hexDigit, UInt8.le_iff_toNat_le, UInt8.reduceToNat]
  split_ifs <;> first | rfl | omega

theorem sscanf_digits {ds : List UInt8} (four : ds.length = headerSize)
    (hex : ∀ c ∈ ds, hexDigit c ≠ none) (cs : List UInt8) :
    sscanf04x (ds ++ cs) = hexNumber 0 ds := by
  match ds, four with
  | [c₁, c₂, c₃, c₄], _ =>
    have h₁ : hexDigit c₁ ≠ none := hex c₁ (by simp)
    have h₂ : hexDigit c₂ ≠ none := hex c₂ (by simp)
    have minus : c₁ ≠ 45 := fun h => absurd (h ▸ h₁) (by decide)
    have plus : c₁ ≠ 43 := fun h => absurd (h ▸ h₁) (by decide)
    have not_x : ¬ (c₂ = 120 ∨ c₂ = 88) := by
      intro h
      cases h with
      | inl h => exact absurd (h ▸ h₂) (by decide)
      | inr h => exact absurd (h ▸ h₂) (by decide)
    have item : (([c₁, c₂, c₃, c₄] ++ cs).dropWhile isSpace).take 4 = [c₁, c₂, c₃, c₄] := by
      simp [not_space h₁]
    have skip : skip0x [c₁, c₂, c₃, c₄] = [c₁, c₂, c₃, c₄] := by
      unfold skip0x
      split
      · rename_i heq
        obtain ⟨rfl, rfl, rfl⟩ : c₁ = 48 ∧ _ = c₂ ∧ _ = [c₃, c₄] := by simpa [eq_comm] using heq
        rw [if_neg not_x]
      · rfl
    unfold sscanf04x
    rw [item]
    split
    · rename_i heq
      exact absurd (List.cons.inj heq).1 minus
    · rename_i heq
      exact absurd (List.cons.inj heq).1 plus
    · rw [skip]

variable (stack) in
theorem Command.bodySize (c : Command) (r : List UInt8) :
    bodySize stack (c.encode ++ r) = c.body.length := by
  have header : (c.encode ++ r).take headerSize = c.digits := by
    rw [encode, List.append_assoc, ← c.four, List.take_left]
  rw [QemudMessageProcessor.bodySize, header, sscanf_digits c.four c.hex, c.size]

variable (stack) in
theorem next_encode (c : Command) (r : List UInt8) :
    nextCommand stack (c.encode ++ r) = some (c.body, r) := by
  have size := c.bodySize stack r
  have header : (c.encode ++ r).drop headerSize = c.body ++ r := by
    rw [Command.encode, List.append_assoc, ← c.four, List.drop_left]
  rw [nextCommand_some, size, ← List.drop_drop, header]
  simp [Command.encode, c.four]

/-- The bytes of a command that has not arrived whole. -/
def Unfinished (tail : List UInt8) : Prop :=
  ∃ c : Command, tail <+: c.encode ∧ tail ≠ c.encode

theorem next_unfinished {tail : List UInt8} (h : Unfinished tail) :
    nextCommand stack tail = none := by
  obtain ⟨c, hp, hne⟩ := h
  obtain ⟨r, hr⟩ := hp
  cases hn : nextCommand stack tail with
  | none => rfl
  | some p =>
    have whole := (commandFrames stack).next_append (f := p.1) (r := p.2) r hn
    change nextCommand stack (tail ++ r) = some (p.1, p.2 ++ r) at whole
    have encoded := next_encode stack c []
    rw [List.append_nil, ← hr, whole] at encoded
    have nil : r = [] := by
      have := (Prod.mk.inj (Option.some.inj encoded)).2
      exact (List.append_eq_nil_iff.mp this).2
    rw [nil, List.append_nil] at hr
    exact absurd hr hne

/-! Runs over the chunks of a stream. -/

theorem run_frames {cs : List (List UInt8)} {s t : State}
    (h : run (call stack) s cs = some t) :
    t.handled ++ (commandFrames stack).frames t.buffer_ =
      s.handled ++ (commandFrames stack).frames (s.buffer_ ++ cs.flatten) := by
  induction cs generalizing s with
  | nil =>
    obtain rfl := Option.some.inj h
    simp
  | cons c cs ih =>
    obtain ⟨u, hu, ht⟩ := run_cons h
    obtain rfl := Option.some.inj hu
    obtain ⟨frames, rest⟩ := processCommands_frames stack (s.buffer_ ++ c) s.handled
    rw [ih ht, FrameReader.frames_append, ← List.append_assoc]
    change (processCommands stack ⟨s.buffer_ ++ c, s.handled⟩).2.handled ++
        (commandFrames stack).frames (processCommands stack ⟨s.buffer_ ++ c, s.handled⟩).2.buffer_ ++
        (commandFrames stack).frames ((commandFrames stack).rest
          (processCommands stack ⟨s.buffer_ ++ c, s.handled⟩).2.buffer_ ++ cs.flatten) = _
    rw [frames, rest, List.append_assoc, ← FrameReader.frames_append]
    simp

variable (stack) in
theorem run_total (s : State) (cs : List (List UInt8)) : ∃ t, run (call stack) s cs = some t := by
  induction cs generalizing s with
  | nil => exact ⟨s, rfl⟩
  | cons c cs ih => exact ih _

variable (stack) in
/-- No call over the chunks leaves a whole frame behind, and the commands handled are `commands`,
in this order. -/
def HandsOver (chunks : List (List UInt8)) (commands : List (List UInt8)) : Prop :=
  Always (call stack) (fun s => nextCommand stack s.buffer_ = none) init chunks ∧
  ∃ t, run (call stack) init chunks = some t ∧ t.handled = commands

theorem run_handled {commands : List Command} {tail : List UInt8} {chunks : List (List UInt8)}
    {t : State} (unfinished : Unfinished tail)
    (cut : chunks.flatten = commands.flatMap Command.encode ++ tail)
    (h : run (call stack) init chunks = some t) (drained : nextCommand stack t.buffer_ = none) :
    t.handled = commands.map Command.body := by
  have frames := run_frames h
  have stream := FrameReader.drain_flatMap (R := commandFrames stack) Command.encode Command.body
    (next_encode stack) commands (next_unfinished unfinished)
  rw [FrameReader.frames_none drained, List.append_nil] at frames
  rw [frames]
  change [] ++ (commandFrames stack).frames ([] ++ chunks.flatten) = _
  rw [List.nil_append, List.nil_append, cut, stream.1]

/-- A stream of commands, cut in any way, is handed over whole and without delay exactly when no
call finds a frame in front of another one with as many bytes behind the frame as in it. -/
theorem process_data_hands_over_iff (stack : List UInt8) (commands : List Command)
    (tail : List UInt8) (chunks : List (List UInt8)) (unfinished : Unfinished tail)
    (cut : chunks.flatten = commands.flatMap Command.encode ++ tail) :
    HandsOver stack chunks (commands.map Command.body) ↔
      Along (call stack) (fun s c => ¬ Stalls stack (s.buffer_ ++ c)) init chunks := by
  have drained : Always (call stack) (fun s => nextCommand stack s.buffer_ = none) init chunks ↔
      Along (call stack) (fun s c => ¬ Stalls stack (s.buffer_ ++ c)) init chunks := by
    apply always_iff_along (I := fun s => nextCommand stack s.buffer_ = none)
    · exact fun _ h => h
    · intro s c t _ hp h
      obtain rfl := Option.some.inj h
      exact (processCommands_drains _ _).mpr hp
    · intro s c t _ h hq
      obtain rfl := Option.some.inj h
      exact (processCommands_drains _ _).mp hq
    · rfl
  constructor
  · intro h
    exact drained.mp h.1
  · intro h
    have always := drained.mpr h
    obtain ⟨t, ht⟩ := run_total stack init chunks
    exact ⟨always, t, ht, run_handled unfinished cut ht (always.last ht)⟩

theorem process_data_hands_over_iff_unequal :
    HandsOver [] [[48, 48, 48, 49, 97, 48, 48], [48, 50, 98, 99]] [[97], [98, 99]] ↔
      Along (call []) (fun s c => ¬ Stalls [] (s.buffer_ ++ c)) init
        [[48, 48, 48, 49, 97, 48, 48], [48, 50, 98, 99]] :=
  process_data_hands_over_iff []
    [⟨[48, 48, 48, 49], [97], rfl, by simp [hexDigit], rfl⟩,
      ⟨[48, 48, 48, 50], [98, 99], rfl, by simp [hexDigit], rfl⟩]
    [] _ ⟨⟨[48, 48, 48, 48], [], rfl, by simp [hexDigit], rfl⟩, List.nil_prefix, by decide⟩ rfl

/-- Two commands of one letter in one chunk: the second one stays in the buffer. -/
theorem equal_commands_not_handed_over :
    ¬ HandsOver [] [[48, 48, 48, 49, 97, 48, 48, 48, 49, 98]] [[97], [98]] := by
  intro h
  obtain ⟨-, t, ht, handled⟩ := h
  have first : nextCommand [] [48, 48, 48, 49, 97, 48, 48, 48, 49, 98] =
      some ([97], [48, 48, 48, 49, 98]) := rfl
  have stop := processCommands_frame first []
  obtain rfl := Option.some.inj ht
  change (processCommands [] ⟨[48, 48, 48, 49, 97, 48, 48, 48, 49, 98], []⟩).2.handled = _ at handled
  rw [stop] at handled
  cases handled

end Anbox.Qemu.QemudMessageProcessor
