import Anbox.Framework.Scan
import Mathlib.Data.List.Forall2

namespace Anbox.Gles2.ShaderSource

open Anbox.Framework

/-- Characters of the C locale. -/
def isspace (c : UInt8) : Bool := isBlank c

def isalpha (c : UInt8) : Bool := (65 ≤ c && c ≤ 90) || (97 ≤ c && c ≤ 122)

def isalnum (c : UInt8) : Bool := isalpha c || isDigit c

def beginsName (c : UInt8) : Bool := isalpha c || c = 95

def inName (c : UInt8) : Bool := isalnum c || c = 95

/-- `#extension` -/
def STR_HASH_EXTENSION : List UInt8 := [35, 101, 120, 116, 101, 110, 115, 105, 111, 110]

/-- `GL_OES_EGL_image_external` -/
def STR_GL_OES_EGL_IMAGE_EXTERNAL : List UInt8 :=
  [71, 76, 95, 79, 69, 83, 95, 69, 71, 76, 95, 105, 109, 97, 103, 101, 95, 101, 120, 116, 101, 114, 110,
    97, 108]

/-- `samplerExternalOES` -/
def STR_SAMPLER_EXTERNAL_OES : List UInt8 :=
  [115, 97, 109, 112, 108, 101, 114, 69, 120, 116, 101, 114, 110, 97, 108, 79, 69, 83]

/-- `sampler2D` with blanks up to the same length -/
def STR_SAMPLER2D_SPACE : List UInt8 :=
  [115, 97, 109, 112, 108, 101, 114, 50, 68, 32, 32, 32, 32, 32, 32, 32, 32, 32]

def inLine (c : UInt8) : Bool := c ≠ 13 && c ≠ 10

/-- The first loop: a statement is blanked from its start to the end of its line. -/
def overwriteExtensions : List UInt8 → List UInt8
  | [] => []
  | c :: cs =>
    if STR_HASH_EXTENSION <+: c :: cs then
      let after := ((c :: cs).drop STR_HASH_EXTENSION.length).dropWhile isspace
      if STR_GL_OES_EGL_IMAGE_EXTERNAL <+: after then
        32 :: (List.replicate (cs.takeWhile inLine).length 32 ++
          overwriteExtensions (cs.dropWhile inLine))
      else c :: (cs.take (cs.length - after.length) ++ overwriteExtensions (cs.drop (cs.length - after.length)))
    else c :: overwriteExtensions cs
termination_by cs => cs.length
decreasing_by
  · have := (List.dropWhile_suffix inLine (l := cs)).length_le
    simp only [List.length_cons]
    omega
  · simp only [List.length_drop, List.length_cons]
    omega
  · simp only [List.length_cons]
    omega

/-- What a source comes to: the text, if there is no error, and the names noted. -/
structure Rewritten where
  text : Option (List UInt8)
  names : List (List UInt8)

def Rewritten.behind (text : List UInt8) (names : List (List UInt8)) (r : Rewritten) : Rewritten :=
  ⟨r.text.map (text ++ ·), names ++ r.names⟩

/-- The second loop. `blank` tells whether the character before is one; there is none at the start. -/
def replaceSamplers (blank : Bool) : List UInt8 → Rewritten
  | [] => ⟨some [], []⟩
  | c :: cs =>
    if STR_SAMPLER_EXTERNAL_OES <+: c :: cs ∧ blank = true then
      let rest := cs.drop (STR_SAMPLER_EXTERNAL_OES.length - 1)
      if rest.head?.any (fun d => !isspace d) = true then
        (replaceSamplers false rest).behind STR_SAMPLER_EXTERNAL_OES []
      else
        let after := rest.dropWhile isspace
        if after.head?.any beginsName = true then
          -- what begins a name is in it
          (replaceSamplers false (after.dropWhile inName)).behind
            (STR_SAMPLER2D_SPACE ++ (rest.takeWhile isspace ++ after.takeWhile inName))
            [after.takeWhile inName]
        else ⟨none, []⟩
    else (replaceSamplers (isspace c) cs).behind [c] []
termination_by cs => cs.length
decreasing_by
  · simp only [List.length_drop, List.length_cons]
    omega
  · have := (List.dropWhile_suffix inName (l := after)).length_le
    have := (List.dropWhile_suffix isspace (l := rest)).length_le
    simp only [after, rest, List.length_drop, List.length_cons] at *
    omega
  · simp only [List.length_cons]
    omega

/-- The source is sent where there is no error; names noted in front of an error stay noted. -/
def replaceSamplerExternalWith2D (str : List UInt8) : Rewritten :=
  replaceSamplers false (overwriteExtensions str)

/-! The words of a source. -/

/-- A text as its first word, if it begins with one, the other words with the blanks before each, and the
blanks at the end. -/
structure Words where
  first : List UInt8
  others : List (List UInt8 × List UInt8)
  trail : List UInt8

namespace Words

def body (others : List (List UInt8 × List UInt8)) (trail : List UInt8) : List UInt8 :=
  others.flatMap (fun p => p.1 ++ p.2) ++ trail

def text (w : Words) : List UInt8 := w.first ++ body w.others w.trail

def cons (c : UInt8) (w : Words) : Words :=
  if isspace c then
    if w.first ≠ [] then ⟨[], ([c], w.first) :: w.others, w.trail⟩
    else
      match w.others with
      | [] => ⟨[], [], c :: w.trail⟩
      | p :: ps => ⟨[], (c :: p.1, p.2) :: ps, w.trail⟩
  else { w with first := c :: w.first }

def of (text : List UInt8) : Words := text.foldr cons ⟨[], [], []⟩

/-- Blanks are between words, and words between blanks. -/
structure Split (w : Words) : Prop where
  first : ∀ c ∈ w.first, isspace c = false
  blank : ∀ p ∈ w.others, p.1 ≠ [] ∧ ∀ c ∈ p.1, isspace c = true
  word : ∀ p ∈ w.others, p.2 ≠ [] ∧ ∀ c ∈ p.2, isspace c = false
  trail : ∀ c ∈ w.trail, isspace c = true

theorem text_cons (c : UInt8) (w : Words) : (cons c w).text = c :: w.text := by
  obtain ⟨first, others, trail⟩ := w
  rw [cons]
  split_ifs with blank some
  · simp [text, body]
  · obtain rfl := not_not.mp some
    cases others with
    | nil => rfl
    | cons p ps => simp [text, body]
  · rfl

theorem text_of (text : List UInt8) : (of text).text = text := by
  induction text with
  | nil => rfl
  | cons c text ih => exact (text_cons c (of text)).trans (congrArg (c :: ·) ih)

theorem Split.cons {w : Words} (h : Split w) (c : UInt8) : Split (cons c w) := by
  obtain ⟨first, others, trail⟩ := w
  rw [Words.cons]
  split_ifs with blank some
  · refine ⟨nofun, ?_, ?_, h.trail⟩
    · intro p hp
      rcases List.mem_cons.mp hp with rfl | later
      · exact ⟨List.cons_ne_nil c [], by simpa using blank⟩
      · exact h.blank p later
    · intro p hp
      rcases List.mem_cons.mp hp with rfl | later
      · exact ⟨some, h.first⟩
      · exact h.word p later
  · cases others with
    | nil => exact ⟨nofun, nofun, nofun, List.forall_mem_cons.mpr ⟨blank, h.trail⟩⟩
    | cons p ps =>
      have front := h.blank p List.mem_cons_self
      refine ⟨nofun, ?_, ?_, h.trail⟩
      · intro q hq
        rcases List.mem_cons.mp hq with rfl | later
        · exact ⟨List.cons_ne_nil c p.1, List.forall_mem_cons.mpr ⟨blank, front.2⟩⟩
        · exact h.blank q (List.mem_cons_of_mem p later)
      · intro q hq
        rcases List.mem_cons.mp hq with rfl | later
        · exact h.word p List.mem_cons_self
        · exact h.word q (List.mem_cons_of_mem p later)
  · exact ⟨List.forall_mem_cons.mpr ⟨(Bool.not_eq_true _).mp blank, h.first⟩, h.blank, h.word, h.trail⟩

theorem split_of (text : List UInt8) : Split (of text) := by
  induction text with
  | nil => exact ⟨nofun, nofun, nofun, nofun⟩
  | cons c text ih => exact ih.cons c

/-- A sampler's type is replaced where a name follows it, and the name is noted. It may be a name that
looks like the type. -/
def rewrite :
    List (List UInt8 × List UInt8) → Option (List (List UInt8 × List UInt8)) × List (List UInt8)
  | [] => (some [], [])
  | [p] => if p.2 = STR_SAMPLER_EXTERNAL_OES then (none, []) else (some [p], [])
  | p :: q :: ps =>
    if p.2 = STR_SAMPLER_EXTERNAL_OES then
      if q.2.head?.any beginsName then
        let r := rewrite ps
        (r.1.map fun ps => (p.1, STR_SAMPLER2D_SPACE) :: q :: ps, q.2.takeWhile inName :: r.2)
      else (none, [])
    else
      let r := rewrite (q :: ps)
      (r.1.map (p :: ·), r.2)

def rewritten (w : Words) : Rewritten :=
  ⟨(rewrite w.others).1.map fun ps => w.first ++ body ps w.trail, (rewrite w.others).2⟩

end Words

/-! The loop goes over the words. -/

theorem behind_nil (r : Rewritten) : r.behind [] [] = r := by
  simp [Rewritten.behind]

theorem behind_behind (r : Rewritten) (a b : List UInt8) (m n : List (List UInt8)) :
    (r.behind b n).behind a m = r.behind (a ++ b) (m ++ n) := by
  simp [Rewritten.behind, Function.comp_def]

theorem sampler_plain : ∀ c ∈ STR_SAMPLER_EXTERNAL_OES, isspace c = false := by
  intro c hc
  have all : (STR_SAMPLER_EXTERNAL_OES.all fun c => !isspace c) = true := by decide
  simpa using List.all_eq_true.mp all c hc

/-- Inside a word nothing is replaced. -/
theorem replace_word {w : List UInt8} (plain : ∀ c ∈ w, isspace c = false) (rest : List UInt8) :
    replaceSamplers false (w ++ rest) = (replaceSamplers false rest).behind w [] := by
  induction w with
  | nil => rw [List.nil_append, behind_nil]
  | cons c w ih =>
    rw [List.cons_append, replaceSamplers, if_neg fun both => Bool.false_ne_true both.2,
      plain c List.mem_cons_self, ih fun d hd => plain d (List.mem_cons_of_mem c hd), behind_behind]
    rfl

theorem replace_blank (blank : Bool) {c : UInt8} (space : isspace c = true) (rest : List UInt8) :
    replaceSamplers blank (c :: rest) = (replaceSamplers true rest).behind [c] [] := by
  have other : ¬(STR_SAMPLER_EXTERNAL_OES <+: c :: rest ∧ blank = true) := by
    rintro ⟨⟨tail, same⟩, -⟩
    have first := sampler_plain 115 (by simp [STR_SAMPLER_EXTERNAL_OES])
    rw [(List.cons.inj same).1, space] at first
    cases first
  rw [replaceSamplers, if_neg other, space]

theorem replace_blanks (blank : Bool) {b : List UInt8} (some : b ≠ [])
    (space : ∀ c ∈ b, isspace c = true) (rest : List UInt8) :
    replaceSamplers blank (b ++ rest) = (replaceSamplers true rest).behind b [] := by
  induction b generalizing blank with
  | nil => exact absurd rfl some
  | cons c b ih =>
    rw [List.cons_append, replace_blank blank (space c List.mem_cons_self)]
    by_cases last : b = []
    · rw [last, List.nil_append]
    · rw [ih true last fun d hd => space d (List.mem_cons_of_mem c hd), behind_behind]
      rfl

theorem replace_trail (blank : Bool) {b : List UInt8} (space : ∀ c ∈ b, isspace c = true) :
    replaceSamplers blank b = ⟨some b, []⟩ := by
  by_cases none : b = []
  · rw [none, replaceSamplers]
  · have ended := replace_blanks blank none space []
    rw [List.append_nil, replaceSamplers] at ended
    rw [ended]
    simp [Rewritten.behind]

/-- No word goes on here. -/
def Stops (rest : List UInt8) : Prop := ∀ c ∈ rest.head?, isspace c = true

theorem prefix_of_stops {v w rest : List UInt8} (plain : ∀ c ∈ v, isspace c = false)
    (word : ∀ c ∈ w, isspace c = false) (stops : Stops rest) (h : v <+: w ++ rest) : v <+: w := by
  obtain ⟨tail, same⟩ := h
  have front : (w ++ rest).takeWhile (fun c => !isspace c) = w :=
    takeWhile_append_stop (fun c hc => by simp [word c hc]) fun c hc => by simp [stops c hc]
  rw [← same, List.takeWhile_append_of_pos fun c hc => by simp [plain c hc]] at front
  exact ⟨_, front⟩

theorem replace_found (rest : List UInt8) : replaceSamplers true (STR_SAMPLER_EXTERNAL_OES ++ rest) =
    if rest.head?.any (fun d => !isspace d) = true then
      (replaceSamplers false rest).behind STR_SAMPLER_EXTERNAL_OES []
    else if (rest.dropWhile isspace).head?.any beginsName = true then
      (replaceSamplers false ((rest.dropWhile isspace).dropWhile inName)).behind
        (STR_SAMPLER2D_SPACE ++ (rest.takeWhile isspace ++ (rest.dropWhile isspace).takeWhile inName))
        [(rest.dropWhile isspace).takeWhile inName]
    else ⟨none, []⟩ := by
  have parts : STR_SAMPLER_EXTERNAL_OES ++ rest = 115 :: (STR_SAMPLER_EXTERNAL_OES.tail ++ rest) := rfl
  rw [parts, replaceSamplers, if_pos ⟨List.prefix_append STR_SAMPLER_EXTERNAL_OES rest, rfl⟩]
  rfl

/-- A word that is not the type stays. -/
theorem replace_other {w rest : List UInt8} (some : w ≠ []) (word : ∀ c ∈ w, isspace c = false)
    (other : w ≠ STR_SAMPLER_EXTERNAL_OES) (stops : Stops rest) :
    replaceSamplers true (w ++ rest) = (replaceSamplers false rest).behind w [] := by
  by_cases found : STR_SAMPLER_EXTERNAL_OES <+: w ++ rest
  · obtain ⟨more, rfl⟩ := prefix_of_stops sampler_plain word stops found
    have plain : ∀ c ∈ more, isspace c = false := fun c hc => word c (List.mem_append_right _ hc)
    obtain ⟨d, ds, rfl⟩ := List.exists_cons_of_ne_nil
      (show more ≠ [] from fun none => other (by rw [none, List.append_nil]))
    have goes_on : ((d :: ds ++ rest).head?.any fun d => !isspace d) = true := by
      simp [plain d List.mem_cons_self]
    rw [List.append_assoc, replace_found, if_pos goes_on, replace_word plain, behind_behind]
    rfl
  · obtain ⟨c, v, rfl⟩ := List.exists_cons_of_ne_nil some
    rw [List.cons_append, replaceSamplers, if_neg fun both => found both.1, word c List.mem_cons_self,
      replace_word fun d hd => word d (List.mem_cons_of_mem c hd), behind_behind]
    rfl

theorem not_inName {c : UInt8} (space : isspace c = true) : inName c = false := by
  revert space
  simp only [isspace, isBlank, inName, isalnum, isalpha, isDigit, Bool.or_eq_true, decide_eq_true_eq,
    Bool.and_eq_true, Bool.or_eq_false_iff, Bool.and_eq_false_iff, decide_eq_false_iff_not,
    UInt8.le_iff_toNat_le, ← UInt8.toNat_inj, UInt8.reduceToNat]
  omega

/-- A name ends in its word. -/
theorem name_of_word {rest : List UInt8} (stops : Stops rest) (w : List UInt8) :
    (w ++ rest).takeWhile inName = w.takeWhile inName ∧
      (w ++ rest).dropWhile inName = w.dropWhile inName ++ rest := by
  induction w with
  | nil =>
    cases rest with
    | nil => exact ⟨rfl, rfl⟩
    | cons c rest =>
      have ends := not_inName (stops c rfl)
      simp [ends]
  | cons c w ih =>
    by_cases inside : inName c = true
    · simp [inside, ih]
    · simp [inside]

/-- The type is replaced where a name follows. -/
theorem replace_sampler {b w rest : List UInt8} (apart : b ≠ []) (space : ∀ c ∈ b, isspace c = true)
    (some : w ≠ []) (word : ∀ c ∈ w, isspace c = false) (stops : Stops rest) :
    replaceSamplers true (STR_SAMPLER_EXTERNAL_OES ++ (b ++ (w ++ rest))) =
      if w.head?.any beginsName = true then
        (replaceSamplers false rest).behind (STR_SAMPLER2D_SPACE ++ (b ++ w)) [w.takeWhile inName]
      else ⟨none, []⟩ := by
  have ended : ((b ++ (w ++ rest)).head?.any fun d => !isspace d) = false := by
    obtain ⟨c, b', rfl⟩ := List.exists_cons_of_ne_nil apart
    simp [space c List.mem_cons_self]
  obtain ⟨d, ds, rfl⟩ := List.exists_cons_of_ne_nil some
  have ends : ∀ c ∈ (d :: ds ++ rest).head?, isspace c = false := by
    rintro c ⟨rfl⟩
    exact word d List.mem_cons_self
  have plain : ∀ c ∈ (d :: ds).dropWhile inName, isspace c = false :=
    fun c hc => word c ((List.dropWhile_suffix inName).subset hc)
  rw [replace_found, if_neg (by rw [ended]; exact Bool.false_ne_true), dropWhile_append_stop space ends,
    takeWhile_append_stop space ends, (name_of_word stops (d :: ds)).1, (name_of_word stops (d :: ds)).2,
    replace_word plain, behind_behind, List.append_assoc, List.append_assoc, List.takeWhile_append_dropWhile]
  rfl

/-- At the end of the source no name follows. -/
theorem replace_sampler_last {b : List UInt8} (space : ∀ c ∈ b, isspace c = true) :
    replaceSamplers true (STR_SAMPLER_EXTERNAL_OES ++ b) = ⟨none, []⟩ := by
  have ended : (b.head?.any fun d => !isspace d) = false := by
    cases b with
    | nil => rfl
    | cons c b => simp [space c List.mem_cons_self]
  have gone : b.dropWhile isspace = [] := List.dropWhile_eq_nil_iff.mpr space
  rw [replace_found, if_neg (by rw [ended]; exact Bool.false_ne_true), gone]
  rfl

namespace Words

theorem body_cons (p : List UInt8 × List UInt8) (ps : List (List UInt8 × List UInt8))
    (trail : List UInt8) : body (p :: ps) trail = p.1 ++ (p.2 ++ body ps trail) := by
  simp [body]

theorem stops_body {others : List (List UInt8 × List UInt8)} {trail : List UInt8}
    (blank : ∀ p ∈ others, p.1 ≠ [] ∧ ∀ c ∈ p.1, isspace c = true)
    (end_ : ∀ c ∈ trail, isspace c = true) : Stops (body others trail) := by
  cases others with
  | nil => exact fun c hc => end_ c (List.mem_of_mem_head? hc)
  | cons p ps =>
    obtain ⟨apart, space⟩ := blank p List.mem_cons_self
    obtain ⟨d, b, split⟩ := List.exists_cons_of_ne_nil apart
    rw [body_cons, split]
    rintro c ⟨rfl⟩
    exact space d (split ▸ List.mem_cons_self)

/-- The loop behind the first word. -/
theorem replace_body {others : List (List UInt8 × List UInt8)} {trail : List UInt8} (state : Bool)
    (blank : ∀ p ∈ others, p.1 ≠ [] ∧ ∀ c ∈ p.1, isspace c = true)
    (word : ∀ p ∈ others, p.2 ≠ [] ∧ ∀ c ∈ p.2, isspace c = false)
    (end_ : ∀ c ∈ trail, isspace c = true) :
    replaceSamplers state (body others trail) =
      ⟨(rewrite others).1.map fun ps => body ps trail, (rewrite others).2⟩ := by
  induction others using rewrite.induct generalizing state with
  | case1 => exact replace_trail state end_
  | case2 p sampler =>
    obtain ⟨apart, space⟩ := blank p List.mem_cons_self
    rw [body_cons, replace_blanks state apart space, sampler, rewrite, if_pos sampler]
    exact congrArg (Rewritten.behind p.1 []) (replace_sampler_last end_)
  | case3 p other =>
    obtain ⟨apart, space⟩ := blank p List.mem_cons_self
    obtain ⟨some, plain⟩ := word p List.mem_cons_self
    have stops : Stops (body [] trail) := stops_body nofun end_
    rw [body_cons, replace_blanks state apart space, replace_other some plain other stops, behind_behind,
      rewrite, if_neg other]
    have last : replaceSamplers false (body [] trail) = ⟨.some trail, []⟩ := replace_trail false end_
    rw [last]
    simp [Rewritten.behind, body]
  | case4 p q ps sampler named ih =>
    obtain ⟨apart, space⟩ := blank p List.mem_cons_self
    obtain ⟨⟨apart', space'⟩, blank'⟩ := List.forall_mem_cons.mp (List.forall_mem_cons.mp blank).2
    obtain ⟨⟨some', plain'⟩, word'⟩ := List.forall_mem_cons.mp (List.forall_mem_cons.mp word).2
    rw [body_cons, body_cons, replace_blanks state apart space, sampler,
      replace_sampler apart' space' some' plain' (stops_body blank' end_), if_pos named, behind_behind,
      ih false blank' word', rewrite, if_pos sampler, if_pos named]
    simp [Rewritten.behind, body, Function.comp_def]
  | case5 p q ps sampler unnamed =>
    obtain ⟨apart, space⟩ := blank p List.mem_cons_self
    obtain ⟨⟨apart', space'⟩, blank'⟩ := List.forall_mem_cons.mp (List.forall_mem_cons.mp blank).2
    obtain ⟨⟨some', plain'⟩, -⟩ := List.forall_mem_cons.mp (List.forall_mem_cons.mp word).2
    rw [body_cons, body_cons, replace_blanks state apart space, sampler,
      replace_sampler apart' space' some' plain' (stops_body blank' end_), if_neg unnamed, rewrite,
      if_pos sampler, if_neg unnamed]
    rfl
  | case6 p q ps other ih =>
    obtain ⟨apart, space⟩ := blank p List.mem_cons_self
    obtain ⟨some, plain⟩ := word p List.mem_cons_self
    have blank' := (List.forall_mem_cons.mp blank).2
    rw [body_cons, replace_blanks state apart space,
      replace_other some plain other (stops_body blank' end_), behind_behind, ih false blank' (List.forall_mem_cons.mp word).2, rewrite, if_neg other]
    simp [Rewritten.behind, body, Function.comp_def]

end Words

/-- What the first loop may do to a character. -/
def Blanked (c d : UInt8) : Prop := d = c ∨ (d = 32 ∧ inLine c = true)

theorem blanked_self (cs : List UInt8) : List.Forall₂ Blanked cs cs :=
  List.forall₂_same.mpr fun _ _ => .inl rfl

theorem blanked_replicate {cs : List UInt8} (line : ∀ c ∈ cs, inLine c = true) :
    List.Forall₂ Blanked cs (List.replicate cs.length 32) := by
  induction cs with
  | nil => exact .nil
  | cons c cs ih =>
    obtain ⟨here, later⟩ := List.forall_mem_cons.mp line
    exact .cons (.inr ⟨rfl, here⟩) (ih later)

/-- Lines stay where they are: only characters inside them are blanked. -/
theorem extensions_blanked (str : List UInt8) : List.Forall₂ Blanked str (overwriteExtensions str) := by
  induction str using overwriteExtensions.induct with
  | case1 =>
    rw [overwriteExtensions]
    exact .nil
  | case2 c cs found after named ih =>
    rw [overwriteExtensions, if_pos found]
    refine (if_pos named).symm ▸ ?_
    obtain ⟨tail, same⟩ := found
    have hash : c = 35 := (List.cons.inj same).1.symm
    refine .cons (.inr ⟨rfl, hash ▸ rfl⟩) ?_
    have line := blanked_replicate fun d hd => List.mem_takeWhile_imp (p := inLine) (l := cs) hd
    have whole := List.rel_append line ih
    dsimp only at whole
    rwa [List.takeWhile_append_dropWhile] at whole
  | case3 c cs found after other ih =>
    rw [overwriteExtensions, if_pos found]
    refine (if_neg other).symm ▸ ?_
    have whole := List.rel_append (blanked_self (cs.take (cs.length - after.length))) ih
    dsimp only at whole
    rw [List.take_append_drop] at whole
    exact .cons (.inl rfl) whole
  | case4 c cs other ih =>
    rw [overwriteExtensions, if_neg other]
    exact .cons (.inl rfl) ih

namespace Words

/-- The type gives way to one of the same length. -/
theorem length_rewrite {others : List (List UInt8 × List UInt8)} :
    ∀ ps, (rewrite others).1 = some ps →
      ∀ trail, (body ps trail).length = (body others trail).length := by
  induction others using rewrite.induct with
  | case1 =>
    intro r hr trail
    obtain rfl := Option.some.inj hr
    rfl
  | case2 p sampler =>
    intro r hr
    rw [rewrite, if_pos sampler] at hr
    cases hr
  | case3 p other =>
    intro r hr trail
    rw [rewrite, if_neg other] at hr
    obtain rfl := Option.some.inj hr
    rfl
  | case4 p q ps sampler named ih =>
    intro r hr trail
    rw [rewrite, if_pos sampler, if_pos named] at hr
    obtain ⟨r', hr', rfl⟩ := Option.map_eq_some_iff.mp hr
    have same := ih r' hr' trail
    have type : STR_SAMPLER2D_SPACE.length = p.2.length := by
      rw [sampler]
      rfl
    simp only [body_cons, List.length_append, same, type]
  | case5 p q ps sampler unnamed =>
    intro r hr
    rw [rewrite, if_pos sampler, if_neg unnamed] at hr
    cases hr
  | case6 p q ps other ih =>
    intro r hr trail
    rw [rewrite, if_neg other] at hr
    obtain ⟨r', hr', rfl⟩ := Option.map_eq_some_iff.mp hr
    have same := ih r' hr' trail
    rw [body_cons, body_cons p, List.length_append, List.length_append, List.length_append, same,
      List.length_append]

end Words

/-- Of a source whose extension statements are blanked, words are rewritten where they are the type of a
sampler that is named behind them, each name is noted in its order, and all else is sent as it is, in its
place. Where no name follows it is an error, and the names in front of it are noted. -/
theorem source_rewritten (str : List UInt8) :
    List.Forall₂ Blanked str (overwriteExtensions str) ∧
    replaceSamplerExternalWith2D str = (Words.of (overwriteExtensions str)).rewritten ∧
    ∀ text, (replaceSamplerExternalWith2D str).text = some text → text.length = str.length := by
  have blanked := extensions_blanked str
  have text_eq := Words.text_of (overwriteExtensions str)
  have split := Words.split_of (overwriteExtensions str)
  generalize Words.of (overwriteExtensions str) = w at text_eq split ⊢
  have sent : replaceSamplerExternalWith2D str = w.rewritten := by
    have loop := Words.replace_body false split.blank split.word split.trail
    rw [replaceSamplerExternalWith2D, ← text_eq, Words.text, replace_word split.first, loop,
      Words.rewritten]
    simp [Rewritten.behind, Function.comp_def]
  refine ⟨blanked, sent, ?_⟩
  intro text gives
  rw [sent] at gives
  obtain ⟨ps, hps, rfl⟩ := Option.map_eq_some_iff.mp gives
  have kept := Words.length_rewrite ps hps w.trail
  calc (w.first ++ Words.body ps w.trail).length = w.text.length := by
        rw [Words.text, List.length_append, List.length_append, kept]
    _ = str.length := by rw [text_eq, blanked.length_eq]

end Anbox.Gles2.ShaderSource
