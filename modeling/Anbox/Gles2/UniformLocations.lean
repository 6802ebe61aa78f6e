import Anbox.Framework.Scan
import Anbox.Gles2.VertexArrays

namespace Anbox.Gles2

open Anbox.Framework

/-! What GL has linked. -/

structure ActiveUniform where
  name : List UInt8
  size : Nat
  type : GLenum

/-- The text GL names an element of an array with. The first may go without its place. -/
def Names (name : List UInt8) (j : Nat) : Prop :=
  (j = 0 ∧ name.getLast? ≠ some 93) ∨
    ∃ front digits, name = front ++ 91 :: (digits ++ [93]) ∧ digits ≠ [] ∧
      (∀ c ∈ digits, isDigit c = true) ∧ decimal digits = j

/-- A program as the driver has linked it: its uniforms, the element that a name stands for, and the
location of each element. A built-in uniform is active and has no location. Where all uniforms begin at
multiples of 2^16, the elements of one follow in even steps and end before the next uniform. -/
structure Executable where
  numUniforms : Nat
  uniform : Nat → ActiveUniform
  element : List UInt8 → Option (Nat × Nat)
  place : Nat → Nat → Int
  inside : ∀ {name i j}, element name = some (i, j) → i < numUniforms ∧ j < (uniform i).size
  own : ∀ i < numUniforms, element (uniform i).name = none ∨ element (uniform i).name = some (i, 0)
  first : ∀ {name i j}, element name = some (i, j) → element (uniform i).name ≠ none
  named : ∀ {name i j}, element name = some (i, j) → Names name j
  typed : ∀ i < numUniforms, (uniform i).type ≠ 0
  nonneg : ∀ i j, 0 ≤ place i j
  above : ∀ i j, place i 0 ≤ place i j
  apart : ∀ i < numUniforms, ∀ j < (uniform i).size, ∀ i' < numUniforms, ∀ j' < (uniform i').size,
    place i j = place i' j' → i = i' ∧ j = j'
  spread : (∀ i < numUniforms, place i 0 % 2^16 = 0) → ∃ stride : Nat → Int,
    ∀ i < numUniforms, ∀ j < (uniform i).size, place i j = place i 0 + j*stride i ∧
      ∀ k < numUniforms, place i 0 < place k 0 → place i j < place k 0

namespace Executable

variable (x : Executable)

def location (name : List UInt8) : Int :=
  match x.element name with
  | none => -1
  | some (i, j) => x.place i j

def elements : List (Nat × Nat) :=
  (List.range x.numUniforms).flatMap fun i => (List.range (x.uniform i).size).map fun j => (i, j)

/-- The element at a location. -/
def locate (loc : Int) : Option (Nat × Nat) := x.elements.find? fun e => decide (x.place e.1 e.2 = loc)

variable {x}

theorem location_none {name : List UInt8} (h : x.element name = none) : x.location name = -1 := by
  rw [location, h]

theorem location_some {name : List UInt8} {i j : Nat} (h : x.element name = some (i, j)) :
    x.location name = x.place i j := by
  rw [location, h]

theorem location_first {name : List UInt8} {i j : Nat} (h : x.element name = some (i, j)) :
    x.location (x.uniform i).name = x.place i 0 := by
  rcases x.own i (x.inside h).1 with none | own
  · exact absurd none (x.first h)
  · exact location_some own

theorem mem_elements {i j : Nat} :
    (i, j) ∈ x.elements ↔ i < x.numUniforms ∧ j < (x.uniform i).size := by
  simp only [elements, List.mem_flatMap, List.mem_range, List.mem_map, Prod.mk.injEq]
  constructor
  · rintro ⟨i', hi', j', hj', rfl, rfl⟩
    exact ⟨hi', hj'⟩
  · rintro ⟨hi, hj⟩
    exact ⟨i, hi, j, hj, rfl, rfl⟩

/-- No two elements share a location. -/
theorem locate_place {i j : Nat} (hi : i < x.numUniforms) (hj : j < (x.uniform i).size) :
    x.locate (x.place i j) = some (i, j) := by
  cases found : x.locate (x.place i j) with
  | none =>
    have missed := List.find?_eq_none.mp found (i, j) (mem_elements.mpr ⟨hi, hj⟩)
    exact absurd (decide_eq_true rfl) missed
  | some e =>
    obtain ⟨i', j'⟩ := e
    obtain ⟨hi', hj'⟩ := mem_elements.mp (List.mem_of_find?_eq_some found)
    rw [locate] at found
    have there := List.find?_some found
    obtain ⟨rfl, rfl⟩ := x.apart i' hi' j' hj' i hi j hj (of_decide_eq_true there)
    rfl

end Executable

/-! What the guest notes of a program. -/

structure IndexInfo where
  base : Int
  size : Int
  type : GLenum
  appBase : Int
  hostLocsPerElement : Int

structure ProgramData where
  mNumIndexes : Nat
  mIndexes : Nat → IndexInfo
  mInitialized : Bool
  mLocShiftWAR : Bool

namespace ProgramData

variable (memory : Nat → IndexInfo)

def fresh : ProgramData := ⟨0, memory, false, false⟩

variable (p : ProgramData)

/-- The new array holds what was in the memory. -/
def initProgramData (numIndexes : Nat) : ProgramData := ⟨numIndexes, memory, true, false⟩

def setIndexInfo (index : Nat) (base size : Int) (type : GLenum) : ProgramData :=
  if index ≥ p.mNumIndexes then p
  else { p with
    mIndexes := Function.update p.mIndexes index {
      base := base
      size := size
      type := type
      appBase :=
        if index > 0 then (p.mIndexes (index - 1)).appBase + (p.mIndexes (index - 1)).size else 0
      hostLocsPerElement := 1 } }

/-- The index of the closest base so far, and its distance. -/
def closer (location : Int) (found : Nat × Int) (i : Nat) : Nat × Int :=
  if 0 ≤ location - (p.mIndexes i).base ∧
      (found.2 < 0 ∨ location - (p.mIndexes i).base < found.2) then
    (i, location - (p.mIndexes i).base)
  else found

def getIndexForLocation (location : Int) : Nat :=
  ((List.range p.mNumIndexes).foldl (p.closer location) (p.mNumIndexes, -1)).1

def getTypeForLocation (location : Int) : GLenum :=
  if p.getIndexForLocation location < p.mNumIndexes then
    (p.mIndexes (p.getIndexForLocation location)).type
  else 0

def setupLocationShiftWAR : ProgramData :=
  { p with mLocShiftWAR :=
      (List.range p.mNumIndexes).all (fun i => decide ((p.mIndexes i).base % 2^16 = 0)) &&
        decide (p.mNumIndexes > 1) }

def locationWARHostToApp (hostLoc arrIndex : Int) : Int × ProgramData :=
  if !p.mLocShiftWAR then (hostLoc, p)
  else
    let index := p.getIndexForLocation hostLoc
    if index < p.mNumIndexes then
      ((p.mIndexes index).appBase + arrIndex,
        if arrIndex > 0 then
          { p with
            mIndexes := Function.update p.mIndexes index { p.mIndexes index with
              hostLocsPerElement := (hostLoc - (p.mIndexes index).base).tdiv arrIndex } }
        else p)
    else (-1, p)

def locationWARAppToHost (appLoc : Int) : Int :=
  if !p.mLocShiftWAR then appLoc
  else
    match (List.range p.mNumIndexes).find? fun i =>
        decide (0 ≤ appLoc - (p.mIndexes i).appBase ∧
          appLoc - (p.mIndexes i).appBase < (p.mIndexes i).size) with
    | some i => (p.mIndexes i).base + (appLoc - (p.mIndexes i).appBase)*(p.mIndexes i).hostLocsPerElement
    | none => -1

end ProgramData

/-! The encoder's part. -/

/-- The text behind the last brace, if there is one. -/
def strrchrBrace (name : List UInt8) : Option (List UInt8) :=
  if 91 ∈ name then some (name.reverse.takeWhile fun c => c ≠ 91).reverse else none

/-- The number in the brackets at the end. Without brackets it is 0; `none` makes the query fail. -/
def arrIndex (name : List UInt8) : Option Int :=
  if name.getLast? = some 93 then (strrchrBrace name).bind scanInt else some 0

namespace GLSharedGroup

/-- The programs of a share group. -/
abbrev Programs := GLuint → Option ProgramData

variable (memory : Nat → IndexInfo) (mPrograms : Programs)

def addProgramData (program : GLuint) : Programs :=
  Function.update mPrograms program (some (.fresh memory))

def deleteProgramData (program : GLuint) : Programs := Function.update mPrograms program none

def setProgramIndexInfo (x : Executable) (p : ProgramData) (i : Nat) : ProgramData :=
  p.setIndexInfo i (x.location (x.uniform i).name) (x.uniform i).size (x.uniform i).type

/-- Each active uniform is asked for its size and its location. -/
def noted (x : Executable) : ProgramData :=
  ((List.range x.numUniforms).foldl (setProgramIndexInfo x)
    (.initProgramData memory x.numUniforms)).setupLocationShiftWAR

/-- Linking has succeeded. -/
def linked (program : GLuint) (x : Executable) : Programs :=
  match mPrograms program with
  | none => mPrograms
  | some _ => Function.update mPrograms program (some (noted memory x))

def needUniformLocationWAR (program : GLuint) : Bool :=
  match mPrograms program with
  | none => false
  | some p => p.mLocShiftWAR

def locationWARHostToApp (program : GLuint) (hostLoc arrIndex : Int) : Int × Programs :=
  match mPrograms program with
  | none => (hostLoc, mPrograms)
  | some p =>
    ((p.locationWARHostToApp hostLoc arrIndex).1,
      Function.update mPrograms program (some (p.locationWARHostToApp hostLoc arrIndex).2))

def locationWARAppToHost (program : GLuint) (appLoc : Int) : Int :=
  match mPrograms program with
  | none => appLoc
  | some p => p.locationWARAppToHost appLoc

def getProgramUniformType (program : GLuint) (location : Int) : GLenum :=
  match mPrograms program with
  | none => 0
  | some p => p.getTypeForLocation location

/-- `host` is what the host answers, if it is asked. -/
def sGlGetUniformLocation (program : GLuint) (name : List UInt8) (host : Int) : Int × Programs :=
  if needUniformLocationWAR mPrograms program then
    match arrIndex name with
    | none => (-1, mPrograms)
    | some index =>
      if host ≥ 0 then locationWARHostToApp mPrograms program host index else (host, mPrograms)
  else (host, mPrograms)

/-- `none` where the location that is sent is never set. -/
def getHostLocation (program : GLuint) (location : Int) : Option Int :=
  if location = -1 then some location
  else if location < 0 then none
  else if getProgramUniformType mPrograms program (locationWARAppToHost mPrograms program location) = 0 ∧
      locationWARAppToHost mPrograms program location ≠ -1 then none
  else some (locationWARAppToHost mPrograms program location)

end GLSharedGroup

/-! Names. -/

theorem arrIndex_of_names {name : List UInt8} {j : Nat} (h : Names name j) : arrIndex name = some ↑j := by
  rcases h with ⟨rfl, plain⟩ | ⟨front, digits, rfl, some_digit, digit, rfl⟩
  · exact if_neg plain
  · have last : (front ++ 91 :: (digits ++ [93])).getLast? = some 93 := by
      rw [← List.cons_append, ← List.append_assoc, List.getLast?_concat]
    have brace : strrchrBrace (front ++ 91 :: (digits ++ [93])) = some (digits ++ [93]) := by
      have back : (front ++ 91 :: (digits ++ [93])).reverse =
          (93 :: digits.reverse) ++ 91 :: front.reverse := by simp
      rw [strrchrBrace, if_pos (by simp), back, takeWhile_append_stop]
      · simp
      · intro c hc
        rcases List.mem_cons.mp hc with rfl | among
        · rfl
        · have := digit c (List.mem_reverse.mp among)
          refine decide_eq_true fun same => ?_
          rw [same] at this
          exact absurd this (by decide)
      · rintro c ⟨rfl⟩
        rfl
    rw [arrIndex, if_pos last, brace, Option.bind_some]
    refine scanInt_iff.mpr ⟨[], .none, digits, [93], rfl, nofun, some_digit, digit, ?_, rfl⟩
    rintro c ⟨rfl⟩
    rfl

/-! The closest base. -/

namespace ProgramData

variable {p : ProgramData} {location : Int}

/-- The loop over the first indices: none of their bases is at the location or below, or the one found is
the closest of those that are. -/
theorem closer_range (p : ProgramData) (location : Int) (n : Nat) : ∀ k,
    ((List.range k).foldl (p.closer location) (n, -1) = (n, -1) ∧
      ∀ i < k, location < (p.mIndexes i).base) ∨
    ∃ c < k, (List.range k).foldl (p.closer location) (n, -1) = (c, location - (p.mIndexes c).base) ∧
      (p.mIndexes c).base ≤ location ∧
      ∀ i < k, (p.mIndexes i).base ≤ location → (p.mIndexes i).base ≤ (p.mIndexes c).base := by
  intro k
  induction k with
  | zero => exact .inl ⟨rfl, nofun⟩
  | succ k ih =>
    rw [List.range_succ, List.foldl_append, List.foldl_cons, List.foldl_nil]
    rcases ih with ⟨found, above⟩ | ⟨c, hc, found, below, closest⟩
    · rw [found, closer]
      split_ifs with here
      · refine .inr ⟨k, Nat.lt_succ_self k, rfl, by omega, ?_⟩
        intro i hi low
        rcases Nat.lt_succ_iff_lt_or_eq.mp hi with before | rfl
        · exact absurd low (not_le.mpr (above i before))
        · exact le_rfl
      · refine .inl ⟨rfl, ?_⟩
        intro i hi
        rcases Nat.lt_succ_iff_lt_or_eq.mp hi with before | rfl
        · exact above i before
        · by_contra low
          exact here ⟨by omega, .inl (by simp)⟩
    · rw [found, closer]
      split_ifs with here
      · refine .inr ⟨k, Nat.lt_succ_self k, rfl, by omega, ?_⟩
        intro i hi low
        rcases Nat.lt_succ_iff_lt_or_eq.mp hi with before | rfl
        · have := closest i before low
          have := here.2
          simp only at this
          omega
        · exact le_rfl
      · refine .inr ⟨c, Nat.lt_succ_of_lt hc, rfl, below, ?_⟩
        intro i hi low
        rcases Nat.lt_succ_iff_lt_or_eq.mp hi with before | rfl
        · exact closest i before low
        · by_contra further
          exact here ⟨by omega, .inr (by simp only; omega)⟩

/-- Where a base is at the location or below, the index found is one of the program's, and no such base
is closer. -/
theorem getIndexForLocation_lt {k : Nat} (hk : k < p.mNumIndexes) (low : (p.mIndexes k).base ≤ location) :
    p.getIndexForLocation location < p.mNumIndexes ∧
      (p.mIndexes (p.getIndexForLocation location)).base ≤ location ∧
      (p.mIndexes k).base ≤ (p.mIndexes (p.getIndexForLocation location)).base := by
  rcases closer_range p location p.mNumIndexes p.mNumIndexes with
    ⟨-, above⟩ | ⟨c, hc, found, below, closest⟩
  · exact absurd low (not_le.mpr (above k hk))
  · rw [getIndexForLocation, found]
    exact ⟨hc, below, closest k hk low⟩

end ProgramData

/-! A program that has been linked. -/

namespace Executable

variable (x : Executable)

/-- The elements of the uniforms before this one. -/
def offset : Nat → Int
  | 0 => 0
  | i + 1 => offset i + (x.uniform i).size

def shifted : Bool :=
  (List.range x.numUniforms).all (fun i => decide (x.location (x.uniform i).name % 2^16 = 0)) &&
    decide (x.numUniforms > 1)

/-- The location the app is given for an element. -/
def appLocation (i j : Nat) : Int := if x.shifted then x.offset i + j else x.place i j

variable {x}

theorem offset_succ_le {i k : Nat} (h : i < k) : x.offset i + (x.uniform i).size ≤ x.offset k := by
  induction k with
  | zero => exact absurd h (Nat.not_lt_zero i)
  | succ k ih =>
    rcases Nat.lt_succ_iff_lt_or_eq.mp h with before | rfl
    · have := ih before
      rw [offset]
      omega
    · rfl

theorem offset_nonneg (i : Nat) : 0 ≤ x.offset i := by
  induction i with
  | zero => rfl
  | succ i ih =>
    rw [offset]
    omega

theorem appLocation_nonneg (i j : Nat) : 0 ≤ x.appLocation i j := by
  rw [appLocation]
  split_ifs
  · exact Int.add_nonneg (offset_nonneg i) (Int.natCast_nonneg j)
  · exact x.nonneg i j

/-- No location is -1 where all are multiples of 2^16, so each uniform has one. -/
theorem element_of_shifted (h : x.shifted = true) {i : Nat} (hi : i < x.numUniforms) :
    x.element (x.uniform i).name = some (i, 0) := by
  have multiple := List.all_eq_true.mp (Bool.and_eq_true_iff.mp h).1 i (List.mem_range.mpr hi)
  rcases x.own i hi with none | own
  · rw [location_none none] at multiple
    exact absurd multiple (by decide)
  · exact own

theorem multiple_of_shifted (h : x.shifted = true) : ∀ i < x.numUniforms, x.place i 0 % 2^16 = 0 := by
  intro i hi
  have multiple := List.all_eq_true.mp (Bool.and_eq_true_iff.mp h).1 i (List.mem_range.mpr hi)
  rw [location_some (element_of_shifted h hi)] at multiple
  exact of_decide_eq_true multiple

end Executable

/-- What the guest has noted of a program. Where the locations are shifted, the step from one element to
the next is known once the app has asked for an element behind the first. -/
structure Reflects (x : Executable) (known : List UInt8 → Bool) (d : ProgramData) : Prop where
  count : d.mNumIndexes = x.numUniforms
  base : ∀ i < x.numUniforms, (d.mIndexes i).base = x.location (x.uniform i).name
  size : ∀ i < x.numUniforms, (d.mIndexes i).size = (x.uniform i).size
  type : ∀ i < x.numUniforms, (d.mIndexes i).type = (x.uniform i).type
  appBase : ∀ i < x.numUniforms, (d.mIndexes i).appBase = x.offset i
  war : d.mLocShiftWAR = x.shifted
  steps : x.shifted = true → ∀ {name i j}, known name = true → x.element name = some (i, j) → 0 < j →
    ∀ j' < (x.uniform i).size, x.place i j' = x.place i 0 + j'*(d.mIndexes i).hostLocsPerElement

/-- The loop of the link has come to an index. -/
structure NotedTo (x : Executable) (k : Nat) (d : ProgramData) : Prop where
  count : d.mNumIndexes = x.numUniforms
  entry : ∀ i < k, d.mIndexes i =
    ⟨x.location (x.uniform i).name, (x.uniform i).size, (x.uniform i).type, x.offset i, 1⟩

theorem NotedTo.setProgramIndexInfo {x : Executable} {k : Nat} {d : ProgramData} (h : NotedTo x k d)
    (hk : k < x.numUniforms) : NotedTo x (k + 1) (GLSharedGroup.setProgramIndexInfo x d k) := by
  have inside : ¬k ≥ d.mNumIndexes := by
    rw [h.count]
    omega
  rw [GLSharedGroup.setProgramIndexInfo, ProgramData.setIndexInfo, if_neg inside]
  refine ⟨h.count, ?_⟩
  intro i hi
  rcases Nat.lt_succ_iff_lt_or_eq.mp hi with before | rfl
  · simp only [Function.update_of_ne before.ne]
    exact h.entry i before
  · simp only [Function.update_self]
    cases i with
    | zero => rfl
    | succ i =>
      rw [if_pos (Nat.succ_pos i), Nat.add_sub_cancel, h.entry i (Nat.lt_succ_self i)]
      rfl

theorem notedTo_range {x : Executable} (memory : Nat → IndexInfo) : ∀ k ≤ x.numUniforms,
    NotedTo x k ((List.range k).foldl (GLSharedGroup.setProgramIndexInfo x)
      (.initProgramData memory x.numUniforms)) := by
  intro k hk
  induction k with
  | zero => exact ⟨rfl, nofun⟩
  | succ k ih =>
    rw [List.range_succ, List.foldl_append, List.foldl_cons, List.foldl_nil]
    exact (ih (by omega)).setProgramIndexInfo hk

/-- Whatever was in the memory, the link leaves what the program is. -/
theorem linked_reflects (memory : Nat → IndexInfo) {mPrograms : GLSharedGroup.Programs}
    {program : GLuint} (x : Executable) (there : mPrograms program ≠ none) :
    ∃ d, GLSharedGroup.linked memory mPrograms program x = Function.update mPrograms program (some d) ∧
      Reflects x (fun _ => false) d := by
  obtain ⟨p, hp⟩ := Option.ne_none_iff_exists'.mp there
  have noted := notedTo_range memory x.numUniforms le_rfl
  have gives : GLSharedGroup.linked memory mPrograms program x =
      Function.update mPrograms program (some (GLSharedGroup.noted memory x)) := by
    simp only [GLSharedGroup.linked, hp]
  refine ⟨GLSharedGroup.noted memory x, gives, noted.count, ?_, ?_, ?_, ?_, ?_, ?_⟩
  · intro i hi
    exact congrArg IndexInfo.base (noted.entry i hi)
  · intro i hi
    exact congrArg IndexInfo.size (noted.entry i hi)
  · intro i hi
    exact congrArg IndexInfo.type (noted.entry i hi)
  · intro i hi
    exact congrArg IndexInfo.appBase (noted.entry i hi)
  · rw [GLSharedGroup.noted, ProgramData.setupLocationShiftWAR, Executable.shifted, noted.count]
    refine congrArg (· && decide (x.numUniforms > 1)) ?_
    refine Bool.eq_iff_iff.mpr ?_
    simp only [List.all_eq_true, List.mem_range]
    constructor
    · intro all i hi
      have := all i hi
      rwa [noted.entry i hi] at this
    · intro all i hi
      rw [noted.entry i hi]
      exact all i hi
  · intro _ name i j known
    exact absurd known (by decide)

namespace Reflects

variable {x : Executable} {known : List UInt8 → Bool} {d : ProgramData}
  {mPrograms : GLSharedGroup.Programs} {program : GLuint} {name : List UInt8} {i j : Nat}

theorem base_eq (h : Reflects x known d) (found : x.element name = some (i, j)) :
    (d.mIndexes i).base = x.place i 0 := by
  rw [h.base i (x.inside found).1, Executable.location_first found]

/-- Every location the driver gives is of a uniform with a type. -/
theorem type_ne (h : Reflects x known d) (found : x.element name = some (i, j)) :
    d.getTypeForLocation (x.place i j) ≠ 0 := by
  have inside : i < d.mNumIndexes := by
    rw [h.count]
    exact (x.inside found).1
  have low : (d.mIndexes i).base ≤ x.place i j := by
    rw [h.base_eq found]
    exact x.above i j
  have closest := (ProgramData.getIndexForLocation_lt inside low).1
  rw [ProgramData.getTypeForLocation, if_pos closest]
  rw [h.count] at closest
  rw [h.type _ closest]
  exact x.typed _ closest

/-- Where the locations are shifted, the closest base is that of the element's own uniform. -/
theorem index_eq (h : Reflects x known d) (shifted : x.shifted = true)
    (found : x.element name = some (i, j)) : d.getIndexForLocation (x.place i j) = i := by
  obtain ⟨hi, hj⟩ := x.inside found
  have low : (d.mIndexes i).base ≤ x.place i j := by
    rw [h.base_eq found]
    exact x.above i j
  obtain ⟨inside, below, closest⟩ := ProgramData.getIndexForLocation_lt (by rwa [h.count]) low
  rw [h.count] at inside
  have other := Executable.element_of_shifted shifted inside
  rw [h.base_eq found, h.base_eq other] at closest
  rw [h.base_eq other] at below
  obtain ⟨stride, spread⟩ := x.spread (Executable.multiple_of_shifted shifted)
  by_contra ne
  rcases lt_or_eq_of_le closest with further | same
  · exact absurd ((spread i hi j hj).2 _ inside further) (not_lt.mpr below)
  · have own := x.inside (Executable.element_of_shifted shifted hi)
    exact ne (x.apart i hi 0 own.2 _ inside 0 (x.inside other).2 same).1.symm

/-- The location the app was given leads back to the one the driver gave. -/
theorem appToHost (h : Reflects x known d) (asked : known name = true)
    (found : x.element name = some (i, j)) : d.locationWARAppToHost (x.appLocation i j) = x.place i j := by
  obtain ⟨hi, hj⟩ := x.inside found
  by_cases shifted : x.shifted = true
  · have war : ¬(!d.mLocShiftWAR) = true := by
      rw [h.war, shifted]
      decide
    have mine : ((List.range d.mNumIndexes).find? fun k =>
        decide (0 ≤ x.appLocation i j - (d.mIndexes k).appBase ∧
          x.appLocation i j - (d.mIndexes k).appBase < (d.mIndexes k).size)) = some i := by
      rw [List.find?_range_eq_some, h.count]
      refine ⟨?_, List.mem_range.mpr hi, ?_⟩
      · rw [h.appBase i hi, h.size i hi, Executable.appLocation, if_pos shifted]
        exact decide_eq_true ⟨by omega, by omega⟩
      · intro k before
        have hk : k < x.numUniforms := by omega
        have behind := Executable.offset_succ_le (x := x) before
        rw [h.appBase k hk, h.size k hk, Executable.appLocation, if_pos shifted, Bool.not_eq_true',
          decide_eq_false_iff_not]
        omega
    rw [ProgramData.locationWARAppToHost, if_neg war, mine]
    simp only
    rw [h.base_eq found, h.appBase i hi, Executable.appLocation, if_pos shifted, add_sub_cancel_left]
    cases j with
    | zero => simp
    | succ j => exact (h.steps shifted asked found (Nat.succ_pos j) (j + 1) hj).symm
  · have off : d.mLocShiftWAR = false := by
      rw [h.war]
      exact (Bool.not_eq_true _).mp shifted
    rw [ProgramData.locationWARAppToHost, off, Executable.appLocation, if_neg shifted]
    rfl

theorem getHostLocation (h : Reflects x known d) (there : mPrograms program = some d)
    (asked : known name = true) (found : x.element name = some (i, j)) :
    GLSharedGroup.getHostLocation mPrograms program (x.appLocation i j) = some (x.place i j) := by
  have nonneg := Executable.appLocation_nonneg (x := x) i j
  have back : GLSharedGroup.locationWARAppToHost mPrograms program (x.appLocation i j) = x.place i j := by
    rw [GLSharedGroup.locationWARAppToHost, there]
    exact h.appToHost asked found
  have typed : GLSharedGroup.getProgramUniformType mPrograms program (x.place i j) ≠ 0 := by
    rw [GLSharedGroup.getProgramUniformType, there]
    exact h.type_ne found
  rw [GLSharedGroup.getHostLocation, if_neg (by omega), if_neg (by omega), back,
    if_neg fun both => typed both.1]

theorem forget (h : Reflects x known d) {fewer : List UInt8 → Bool}
    (less : ∀ name, fewer name = true → known name = true) : Reflects x fewer d :=
  { h with steps := fun shifted _ _ _ asked => h.steps shifted (less _ asked) }

/-- The step that the guest works out from the location of a later element is the driver's. -/
theorem hostToApp (h : Reflects x known d) (shifted : x.shifted = true)
    (found : x.element name = some (i, j)) : ∃ d',
    d.locationWARHostToApp (x.place i j) j = (x.appLocation i j, d') ∧
      Reflects x (Function.update known name true) d' := by
  obtain ⟨hi, hj⟩ := x.inside found
  have war : ¬(!d.mLocShiftWAR) = true := by
    rw [h.war, shifted]
    decide
  have index := h.index_eq shifted found
  have given : (d.mIndexes i).appBase + j = x.appLocation i j := by
    rw [h.appBase i hi, Executable.appLocation, if_pos shifted]
  rw [ProgramData.locationWARHostToApp, if_neg war]
  simp only [index, if_pos (h.count.symm ▸ hi), given]
  refine ⟨_, rfl, ?_⟩
  split_ifs with behind
  · obtain ⟨stride, spread⟩ := x.spread (Executable.multiple_of_shifted shifted)
    have step : (x.place i j - (d.mIndexes i).base).tdiv j = stride i := by
      rw [h.base_eq found, (spread i hi j hj).1, add_sub_cancel_left]
      exact Int.mul_tdiv_cancel_left _ (by omega)
    have entry {β : Type} (f : IndexInfo → β) (k : Nat)
        (kept : f { d.mIndexes i with hostLocsPerElement := stride i } = f (d.mIndexes i)) :
        f (Function.update d.mIndexes i { d.mIndexes i with hostLocsPerElement := stride i } k) =
          f (d.mIndexes k) := by
      by_cases same : k = i
      · rw [same, Function.update_self, kept]
      · rw [Function.update_of_ne same]
    rw [step]
    refine ⟨h.count, ?_, ?_, ?_, ?_, h.war, ?_⟩
    · intro k hk
      exact (entry IndexInfo.base k rfl).trans (h.base k hk)
    · intro k hk
      exact (entry IndexInfo.size k rfl).trans (h.size k hk)
    · intro k hk
      exact (entry IndexInfo.type k rfl).trans (h.type k hk)
    · intro k hk
      exact (entry IndexInfo.appBase k rfl).trans (h.appBase k hk)
    · intro _ name' k l asked found' later j' hj'
      by_cases same : k = i
      · rw [same] at hj' ⊢
        simp only [Function.update_self]
        exact (spread i hi j' hj').1
      · have other : name' ≠ name := by
          rintro rfl
          rw [found] at found'
          exact same (Prod.mk.inj (Option.some.inj found')).1.symm
        rw [Function.update_of_ne other] at asked
        simp only [Function.update_of_ne same]
        exact h.steps shifted asked found' later j' hj'
  · refine { h with steps := ?_ }
    intro _ name' k l asked found' later
    have other : name' ≠ name := by
      rintro rfl
      rw [found] at found'
      have := (Prod.mk.inj (Option.some.inj found')).2
      omega
    rw [Function.update_of_ne other] at asked
    exact h.steps shifted asked found' later

/-- The app is given its location for the element, and the guest can lead it back. -/
theorem query (h : Reflects x known d) (there : mPrograms program = some d)
    (found : x.element name = some (i, j)) : ∃ d',
    GLSharedGroup.sGlGetUniformLocation mPrograms program name (x.place i j) =
        (x.appLocation i j, Function.update mPrograms program (some d')) ∧
      Reflects x (Function.update known name true) d' := by
  have need : GLSharedGroup.needUniformLocationWAR mPrograms program = x.shifted := by
    rw [GLSharedGroup.needUniformLocationWAR, there]
    exact h.war
  rw [GLSharedGroup.sGlGetUniformLocation, need]
  by_cases shifted : x.shifted = true
  · obtain ⟨d', gives, reflects⟩ := h.hostToApp shifted found
    refine ⟨d', ?_, reflects⟩
    rw [if_pos shifted, arrIndex_of_names (x.named found)]
    simp only
    rw [if_pos (x.nonneg i j), GLSharedGroup.locationWARHostToApp, there]
    simp only [gives]
  · refine ⟨d, ?_, ?_⟩
    · rw [if_neg shifted, Executable.appLocation, if_neg shifted, ← there, Function.update_eq_self]
    · refine { h with steps := fun on => absurd on shifted }

end Reflects

/-- What the host does not find, the app does not either. -/
theorem query_missing (mPrograms : GLSharedGroup.Programs) (program : GLuint) (name : List UInt8) :
    GLSharedGroup.sGlGetUniformLocation mPrograms program name (-1) = (-1, mPrograms) := by
  rw [GLSharedGroup.sGlGetUniformLocation]
  by_cases need : GLSharedGroup.needUniformLocationWAR mPrograms program = true
  · rw [if_pos need]
    cases arrIndex name with
    | none => rfl
    | some index => exact if_neg (by decide)
  · rw [if_neg need]

end Anbox.Gles2
