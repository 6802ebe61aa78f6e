import Mathlib.Data.List.Basic

namespace Anbox.Framework

/-- How the first frame of a buffer is read off it, once the buffer holds that frame whole.
Bytes that arrive later neither change the frame nor come in front of what is left. -/
structure FrameReader (β φ : Type*) where
  next : List β → Option (φ × List β)
  next_length : ∀ {b f r}, next b = some (f, r) → r.length < b.length
  next_append : ∀ {b f r} c, next b = some (f, r) → next (b ++ c) = some (f, r ++ c)

namespace FrameReader

variable {β φ : Type*} (R : FrameReader β φ)

/-- All whole frames at the front of a buffer, and the bytes behind them. -/
def drain (b : List β) : List φ × List β :=
  match _h : R.next b with
  | none => ([], b)
  | some (f, r) => (f :: (drain r).1, (drain r).2)
termination_by b.length
decreasing_by all_goals exact R.next_length _h

def frames (b : List β) : List φ := (R.drain b).1

def rest (b : List β) : List β := (R.drain b).2

/-- The buffer behind its first `n` frames. -/
def behind : Nat → List β → List β
  | 0, b => b
  | n+1, b =>
    match R.next b with
    | none => b
    | some (_, r) => behind n r

variable {R} {b c r : List β} {f : φ}

theorem frames_none (h : R.next b = none) : R.frames b = [] := by
  unfold frames drain
  split
  · rfl
  · rename_i h'
    simp [h] at h'

theorem rest_none (h : R.next b = none) : R.rest b = b := by
  unfold rest drain
  split
  · rfl
  · rename_i h'
    simp [h] at h'

theorem frames_some (h : R.next b = some (f, r)) : R.frames b = f :: R.frames r := by
  rw [frames,drain]
  split
  · rename_i h'
    simp [h] at h'
  · rename_i h'
    obtain ⟨rfl,rfl⟩ : _ = f ∧ _ = r := by simpa [h, eq_comm] using h'
    rfl

theorem rest_some (h : R.next b = some (f, r)) : R.rest b = R.rest r := by
  rw [rest,drain]
  split
  · rename_i h'
    simp [h] at h'
  · rename_i h'
    obtain ⟨rfl,rfl⟩ : _ = f ∧ _ = r := by simpa [h, eq_comm] using h'
    rfl

/-- Induction along the frames of a buffer. -/
theorem induction_frames {motive : List β → Prop} (b : List β)
    (none : ∀ b, R.next b = none → motive b)
    (some : ∀ b f r, R.next b = some (f, r) → motive r → motive b) : motive b := by
  induction hn : b.length using Nat.strongRecOn generalizing b with
  | _ n ih =>
    cases h : R.next b with
    | none => exact none b h
    | some p => exact some b p.1 p.2 h (ih _ (hn ▸ R.next_length h) p.2 rfl)

/-- What is left holds no whole frame. -/
theorem next_rest (b : List β) : R.next (R.rest b) = none := by
  induction b using R.induction_frames with
  | none b h => rwa [rest_none h]
  | some b f r h ih => rwa [rest_some h]

/-- Bytes that arrive later are read as if what was left had been waiting for them. -/
theorem frames_append (b c : List β) :
    R.frames (b ++ c) = R.frames b ++ R.frames (R.rest b ++ c) := by
  induction b using R.induction_frames with
  | none b h => rw [frames_none h, rest_none h, List.nil_append]
  | some b f r h ih =>
    rw [frames_some (R.next_append c h), frames_some h, rest_some h, ih, List.cons_append]

theorem rest_append (b c : List β) : R.rest (b ++ c) = R.rest (R.rest b ++ c) := by
  induction b using R.induction_frames with
  | none b h => rw [rest_none h]
  | some b f r h ih => rw [rest_some (R.next_append c h), rest_some h, ih]

@[simp] theorem behind_zero (b : List β) : R.behind 0 b = b := rfl

theorem behind_succ (h : R.next b = some (f, r)) (n : Nat) :
    R.behind (n+1) b = R.behind n r := by
  simp [behind, h]

theorem next_of_frames_pos (h : 0 < (R.frames b).length) : ∃ f r, R.next b = some (f, r) := by
  cases hn : R.next b with
  | none => simp [frames_none hn] at h
  | some p => exact ⟨p.1, p.2, rfl⟩

/-- Behind `n` frames the next one is the frame with index `n`. -/
theorem next_behind {n : Nat} {b : List β} (h : n < (R.frames b).length) :
    R.next (R.behind n b) = some ((R.frames b)[n], R.behind (n+1) b) := by
  induction n generalizing b with
  | zero =>
    obtain ⟨f, r, hn⟩ := next_of_frames_pos h
    simp [hn, behind_succ hn, frames_some hn]
  | succ n ih =>
    obtain ⟨f, r, hn⟩ := next_of_frames_pos (Nat.zero_lt_of_lt h)
    have ht : n < (R.frames r).length := by simpa [frames_some hn] using h
    simp [behind_succ hn, ih ht, frames_some hn]

theorem frames_behind {n : Nat} {b : List β} (h : n ≤ (R.frames b).length) (c : List β) :
    R.frames (R.behind n b ++ c) = (R.frames (b ++ c)).drop n := by
  induction n generalizing b with
  | zero => simp
  | succ n ih =>
    obtain ⟨f, r, hn⟩ := next_of_frames_pos (Nat.zero_lt_of_lt h)
    have ht : n ≤ (R.frames r).length := by simpa [frames_some hn] using h
    rw [behind_succ hn, ih ht, frames_some (R.next_append c hn), List.drop_succ_cons]

/-- A stream of frames, each written in a way the reader undoes, is read back frame by frame, down
to an unfinished tail. -/
theorem drain_flatMap {γ : Type*} (write : γ → List β) (read : γ → φ)
    (next_write : ∀ g r, R.next (write g ++ r) = some (read g, r)) (gs : List γ) {tail : List β}
    (ht : R.next tail = none) :
    R.frames (gs.flatMap write ++ tail) = gs.map read ∧
      R.rest (gs.flatMap write ++ tail) = tail := by
  induction gs with
  | nil => exact ⟨frames_none ht, rest_none ht⟩
  | cons g gs ih =>
    have h := next_write g (gs.flatMap write ++ tail)
    rw [List.flatMap_cons, List.append_assoc, frames_some h, rest_some h]
    exact ⟨congrArg (List.cons (read g)) ih.1, ih.2⟩

end FrameReader

/-- A reader together with the encoding it undoes. -/
structure FrameCodec (β φ : Type*) extends FrameReader β φ where
  encode : φ → List β
  next_encode : ∀ f r, next (encode f ++ r) = some (f, r)

namespace FrameCodec

variable {β φ : Type*} (R : FrameCodec β φ)

/-- A stream of encoded frames is read back frame by frame, down to an unfinished tail. -/
theorem drain_encode (fs : List φ) {tail : List β} (ht : R.next tail = none) :
    R.frames (fs.flatMap R.encode ++ tail) = fs ∧ R.rest (fs.flatMap R.encode ++ tail) = tail := by
  have h := FrameReader.drain_flatMap R.encode id R.next_encode fs ht
  rwa [List.map_id] at h

end FrameCodec

end Anbox.Framework
