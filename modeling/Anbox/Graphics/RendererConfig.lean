import Mathlib.Data.List.Basic

namespace Anbox.Graphics.RendererConfig

def EGL_NONE : Int32 := 0x3038
def EGL_SURFACE_TYPE : Int32 := 0x3033
def EGL_PBUFFER_BIT : Int32 := 0x0001
def EGL_CONFIG_ID : Int32 := 0x3028
def EGL_BLUE_SIZE : Int32 := 0x3022
def EGL_GREEN_SIZE : Int32 := 0x3023
def EGL_RED_SIZE : Int32 := 0x3024

/-- The display of the host. Its configs do not change. -/
structure Egl (EGLConfig : Type) where
  eglGetConfigs : Option (List EGLConfig)
  /-- The configs for a list of attributes, so many at most. -/
  eglChooseConfig : List Int32 → Nat → Option (List EGLConfig)
  eglGetConfigAttrib : EGLConfig → Int32 → Option Int32
  /-- What a variable holds when the call that should set it fails. -/
  uninitialized : EGLConfig → Int32

variable {EGLConfig : Type} (egl : Egl EGLConfig)

def isCompatibleHostConfig (config : EGLConfig) : Bool :=
  let surfaceType := (egl.eglGetConfigAttrib config EGL_SURFACE_TYPE).getD (egl.uninitialized config)
  if surfaceType &&& EGL_PBUFFER_BIT = 0 then false
  else
    (egl.eglGetConfigAttrib config EGL_RED_SIZE).getD 0 ≠ 0 &&
      (egl.eglGetConfigAttrib config EGL_GREEN_SIZE).getD 0 ≠ 0 &&
      (egl.eglGetConfigAttrib config EGL_BLUE_SIZE).getD 0 ≠ 0

/-- The identifiers that the entries of `mConfigs` got from the host, in order. -/
structure RendererConfigList where
  ids : List Int32

def RendererConfigList.make : RendererConfigList :=
  match egl.eglGetConfigs with
  | none => ⟨[]⟩
  | some hostConfigs => ⟨(hostConfigs.filter (isCompatibleHostConfig egl)).map fun config =>
      (egl.eglGetConfigAttrib config EGL_CONFIG_ID).getD 0⟩

/-- What the first loop of `chooseConfig` finds. -/
structure Found where
  numAttribs : Nat
  hasSurfaceType : Bool
  mustReplaceSurfaceType : Bool

/-- The first loop: the places it reads, and what it finds if it does not leave the memory that there is
from `attribs` on. -/
def scan (n : Nat) (has must : Bool) : List Int32 → List Nat × Option Found
  | [] => ([n], none)
  | [a] =>
    if a = EGL_NONE then ([n], some ⟨n, has, must⟩)
    else if a = EGL_SURFACE_TYPE then ([n, n + 1], none)
    else ([n, n + 2], none)
  | a :: v :: memory =>
    if a = EGL_NONE then ([n], some ⟨n, has, must⟩)
    else if a = EGL_SURFACE_TYPE then
      let rest := scan (n + 2) true (must || v ≠ EGL_PBUFFER_BIT) memory
      (n :: (n + 1) :: rest.1, rest.2)
    else
      let rest := scan (n + 2) has must memory
      (n :: rest.1, rest.2)

/-- The loop over the copy. -/
def replaceSurfaceTypes : List Int32 → List Int32
  | a :: v :: rest =>
    a :: (if a = EGL_SURFACE_TYPE then EGL_PBUFFER_BIT else v) :: replaceSurfaceTypes rest
  | rest => rest

/-- The new array, if there is one. -/
def newAttribs (memory : List Int32) (found : Found) : Option (List Int32) :=
  if found.mustReplaceSurfaceType then
    some (replaceSurfaceTypes (memory.take found.numAttribs) ++ [EGL_NONE])
  else if !found.hasSurfaceType then
    some (memory.take found.numAttribs ++ [EGL_SURFACE_TYPE, EGL_PBUFFER_BIT, EGL_NONE])
  else none

/-- The place of the entry with the identifier of the host. -/
def guestConfig (l : RendererConfigList) (config : EGLConfig) : Option Nat :=
  let hostConfigId := (egl.eglGetConfigAttrib config EGL_CONFIG_ID).getD (egl.uninitialized config)
  l.ids.findIdx? fun guestConfigId => guestConfigId = hostConfigId

/-- The last loop: `result`, and what has been written to `configs` if that is not NULL. -/
def collect (l : RendererConfigList) (configs : Bool) (configsSize : Int32) :
    List EGLConfig → Nat → List Nat → Nat × List Nat
  | [], result, written => (result, written)
  | config :: rest, result, written =>
    if configs ∧ 0 < configsSize ∧ configsSize.toInt ≤ result then (result, written)
    else if !isCompatibleHostConfig egl config then collect l configs configsSize rest result written
    else
      match guestConfig egl l config with
      | none => collect l configs configsSize rest result written
      | some k =>
        collect l configs configsSize rest (result + 1)
          (if configs ∧ (result : Int) < configsSize.toInt then written ++ [k] else written)

/-- What a call does: the attributes it reads, the list and the configs of a call of `eglChooseConfig`, if
there is one, what is written to `configs`, and what is returned, if it returns. -/
structure Outcome (EGLConfig : Type) where
  reads : List Nat
  chosen : Option (List Int32 × List EGLConfig)
  configs : List Nat
  result : Option Nat

/-- The process may end where memory ends. -/
def chooseConfig (l : RendererConfigList) (memory : List Int32) (configs : Bool)
    (configsSize : Int32) : Outcome EGLConfig :=
  match egl.eglGetConfigs with
  | none => ⟨[], none, [], some 0⟩
  | some hostConfigs =>
    match scan 0 false false memory with
    | (reads, none) => ⟨reads, none, [], none⟩
    | (reads, some found) =>
      let attribs := (newAttribs memory found).getD (memory.take (found.numAttribs + 1))
      let matched := (egl.eglChooseConfig attribs hostConfigs.length).getD []
      let collected := collect egl l configs configsSize matched 0 []
      -- The numbers before the last are copied, or all of them are read by EGL.
      ⟨reads ++ List.range (found.numAttribs + 1), some (attribs, matched), collected.2,
        some collected.1⟩

def rcChooseConfig (renderer : Option RendererConfigList) (memory : List Int32)
    (attribsSize : UInt32) (configs : Bool) (configsSize : UInt32) : Outcome EGLConfig :=
  match renderer with
  | none => ⟨[], none, [], some 0⟩
  | some l =>
    if attribsSize = 0 then ⟨[], none, [], some 0⟩
    else chooseConfig egl l memory configs configsSize.toInt32

/-! What is wanted. -/

abbrev Pair := Int32 × Int32

def flat (ps : List Pair) : List Int32 := ps.flatMap fun p => [p.1, p.2]

/-- The attributes and values of a list, up to `EGL_NONE`. -/
def pairs : List Int32 → List Pair
  | a :: v :: rest => if a = EGL_NONE then [] else (a, v) :: pairs rest
  | _ => []

def Pair.isSurfaceType (p : Pair) : Bool := p.1 = EGL_SURFACE_TYPE

def Pair.replaced (p : Pair) : Pair :=
  if p.isSurfaceType then (EGL_SURFACE_TYPE, EGL_PBUFFER_BIT) else p

/-- The list that EGL should get. -/
def wanted (given : List Int32) : List Int32 :=
  flat ((pairs given).map Pair.replaced ++
    if (pairs given).any Pair.isSurfaceType then [] else [(EGL_SURFACE_TYPE, EGL_PBUFFER_BIT)]) ++
    [EGL_NONE]

/-- Room for so many: a size beyond `EGLint` is none. -/
def room (configs : Bool) (configsSize : UInt32) : Nat :=
  if configs then configsSize.toInt32.toInt.toNat else 0

/-- The call of EGL there should be, with the configs it gives. -/
def asked (renderer : Option RendererConfigList) (given : List Int32) (attribsSize : UInt32) :
    Option (List Int32 × List EGLConfig) :=
  if renderer.isNone ∨ attribsSize = 0 then none
  else egl.eglGetConfigs.map fun hostConfigs =>
    (wanted given, (egl.eglChooseConfig (wanted given) hostConfigs.length).getD [])

/-- The entries for the configs of EGL that are compatible. -/
def hits (l : RendererConfigList) (matched : List EGLConfig) : List Nat :=
  (matched.filter (isCompatibleHostConfig egl)).filterMap (guestConfig egl l)

/-- The entries that the call is about. -/
def found (renderer : Option RendererConfigList) (chosen : Option (List Int32 × List EGLConfig)) :
    List Nat :=
  match renderer, chosen with
  | some l, some c => hits egl l c.2
  | _, _ => []

/-- A call reads no attribute beyond those that are given, asks EGL with the list that is wanted, and
returns entries of the configs that EGL has chosen, no more than there is room for. The number it returns
is theirs, and without an array that of all there are. -/
structure Safe (renderer : Option RendererConfigList) (given : List Int32) (attribsSize : UInt32)
    (configs : Bool) (configsSize : UInt32) (o : Outcome EGLConfig) : Prop where
  reads : ∀ i ∈ o.reads, i < given.length
  asks : o.chosen = asked egl renderer given attribsSize
  room : o.configs.length ≤ room configs configsSize
  returned : ∀ k ∈ o.configs, ∃ l ∈ renderer, ∃ c ∈ o.chosen, ∃ config ∈ c.2,
    isCompatibleHostConfig egl config = true ∧
    ∃ id ∈ l.ids[k]?, id = (egl.eglGetConfigAttrib config EGL_CONFIG_ID).getD (egl.uninitialized config)
  number : o.result =
    some (if configs then o.configs.length else (found egl renderer o.chosen).length)

/-- `EGL_NONE` stands where an attribute could. -/
def Terminated (given : List Int32) : Prop := ∃ i, given[2 * i]? = some EGL_NONE

/-! The first loop. -/

variable {egl}

theorem flat_cons (p : Pair) (ps : List Pair) : flat (p :: ps) = p.1 :: p.2 :: flat ps := rfl

theorem terminated_cons_cons {a v : Int32} {given : List Int32} :
    Terminated (a :: v :: given) ↔ a = EGL_NONE ∨ Terminated given := by
  constructor
  · intro h
    obtain ⟨i, hi⟩ := h
    cases i with
    | zero => exact Or.inl (Option.some.inj hi)
    | succ i => exact Or.inr ⟨i, hi⟩
  · intro h
    obtain rfl | ⟨i, hi⟩ := h
    · exact ⟨0, rfl⟩
    · exact ⟨i + 1, hi⟩

/-- A list with an end: its pairs, and what is behind them. -/
theorem Terminated.split {given : List Int32} (h : Terminated given) :
    ∃ rest, given = flat (pairs given) ++ EGL_NONE :: rest := by
  induction given using pairs.induct with
  | case1 v rest =>
    refine ⟨v :: rest, ?_⟩
    rw [pairs, if_pos rfl]
    rfl
  | case2 a v rest other ih =>
    obtain ⟨behind, cut⟩ := ih ((terminated_cons_cons.mp h).resolve_left other)
    refine ⟨behind, ?_⟩
    rw [pairs, if_neg other, flat_cons, List.cons_append, List.cons_append, ← cut]
  | case3 given short =>
    obtain ⟨i, hi⟩ := h
    match given, short with
    | [], _ => simp at hi
    | [a], _ =>
      cases i with
      | zero =>
        obtain rfl := Option.some.inj hi
        exact ⟨[], rfl⟩
      | succ i => simp at hi
    | a :: v :: rest, short => exact absurd rfl (short a v rest)

theorem pairs_ne_none (given : List Int32) : ∀ p ∈ pairs given, p.1 ≠ EGL_NONE := by
  induction given using pairs.induct with
  | case1 v rest => simp [pairs]
  | case2 a v rest other ih =>
    rw [pairs, if_neg other, List.forall_mem_cons]
    exact ⟨other, ih⟩
  | case3 given short =>
    rw [pairs]
    · exact nofun
    · exact short

/-- With an end, the loop stays in front of it, and finds what there is. -/
theorem scan_flat {ps : List Pair} (plain : ∀ p ∈ ps, p.1 ≠ EGL_NONE) (behind : List Int32) (n : Nat)
    (has must : Bool) : ∃ reads, scan n has must (flat ps ++ EGL_NONE :: behind) =
      (reads, some ⟨n + (flat ps).length, has || ps.any Pair.isSurfaceType,
        must || ps.any fun p => p.isSurfaceType && p.2 ≠ EGL_PBUFFER_BIT⟩) ∧
      ∀ i ∈ reads, i ≤ n + (flat ps).length := by
  induction ps generalizing n has must with
  | nil =>
    refine ⟨[n], ?_, by simp⟩
    cases behind with
    | nil => simp [flat, scan]
    | cons b behind => simp [flat, scan]
  | cons p ps ih =>
    obtain ⟨first, later⟩ := List.forall_mem_cons.mp plain
    have length : (flat (p :: ps)).length = 2 + (flat ps).length := by
      rw [flat_cons, List.length_cons, List.length_cons]
      omega
    rw [length, flat_cons, List.cons_append, List.cons_append, scan, if_neg first]
    by_cases isType : p.1 = EGL_SURFACE_TYPE
    · obtain ⟨reads, found, bound⟩ := ih later (n + 2) true (must || p.2 ≠ EGL_PBUFFER_BIT)
      rw [if_pos isType, found]
      refine ⟨n :: (n + 1) :: reads, ?_, ?_⟩
      · simp [isType, Pair.isSurfaceType, Nat.add_assoc, Bool.or_assoc]
      · simp only [List.forall_mem_cons, ← Nat.add_assoc]
        exact ⟨by omega, by omega, bound⟩
    · obtain ⟨reads, found, bound⟩ := ih later (n + 2) has must
      rw [if_neg isType, found]
      refine ⟨n :: reads, ?_, ?_⟩
      · simp [isType, Pair.isSurfaceType, Nat.add_assoc]
      · simp only [List.forall_mem_cons, ← Nat.add_assoc]
        exact ⟨by omega, bound⟩

theorem first_read (memory : List Int32) (n : Nat) (has must : Bool) :
    n ∈ (scan n has must memory).1 := by
  fun_cases scan n has must memory
  all_goals exact List.mem_cons_self

/-- Without an end, it goes on behind what is given. -/
theorem scan_beyond {given : List Int32} (h : ¬ Terminated given) (behind : List Int32) (n : Nat)
    (has must : Bool) : ∃ i ∈ (scan n has must (given ++ behind)).1, n + given.length ≤ i := by
  induction given using pairs.induct generalizing n has must with
  | case1 v rest => exact absurd (terminated_cons_cons.mpr (Or.inl rfl)) h
  | case2 a v rest other ih =>
    rw [List.cons_append, List.cons_append, scan, if_neg other, List.length_cons, List.length_cons]
    have later := ih fun there => h (terminated_cons_cons.mpr (Or.inr there))
    by_cases isType : a = EGL_SURFACE_TYPE
    · obtain ⟨i, hi, far⟩ := later (n + 2) true (must || v ≠ EGL_PBUFFER_BIT)
      rw [if_pos isType]
      exact ⟨i, List.mem_cons_of_mem _ (List.mem_cons_of_mem _ hi), by omega⟩
    · obtain ⟨i, hi, far⟩ := later (n + 2) has must
      rw [if_neg isType]
      exact ⟨i, List.mem_cons_of_mem _ hi, by omega⟩
  | case3 given short =>
    match given, short with
    | [], _ =>
      refine ⟨n, ?_, Nat.le_refl _⟩
      rw [List.nil_append]
      exact first_read behind n has must
    | [a], _ =>
      have other : ¬ a = EGL_NONE := fun same => h ⟨0, congrArg some same⟩
      cases behind with
      | nil =>
        rw [List.append_nil, scan, if_neg other]
        split_ifs
        · exact ⟨n + 1, by simp, Nat.le_refl _⟩
        · exact ⟨n + 2, by simp, Nat.le_succ _⟩
      | cons v behind =>
        rw [List.cons_append, List.nil_append, scan, if_neg other]
        split_ifs
        · exact ⟨n + 1, by simp, Nat.le_refl _⟩
        · exact ⟨n + 2, List.mem_cons_of_mem _ (first_read behind _ has must), Nat.le_succ _⟩
    | a :: v :: rest, short => exact absurd rfl (short a v rest)

/-! The list for EGL. -/

theorem replaceSurfaceTypes_flat (ps : List Pair) :
    replaceSurfaceTypes (flat ps) = flat (ps.map Pair.replaced) := by
  induction ps with
  | nil => rfl
  | cons p ps ih =>
    rw [flat_cons, replaceSurfaceTypes, ih, List.map_cons, flat_cons, Pair.replaced]
    by_cases isType : p.1 = EGL_SURFACE_TYPE
    · simp [isType, Pair.isSurfaceType]
    · simp [isType, Pair.isSurfaceType]

theorem map_replaced_of_any {ps : List Pair}
    (none : (ps.any fun p => p.isSurfaceType && p.2 ≠ EGL_PBUFFER_BIT) = false) :
    ps.map Pair.replaced = ps := by
  refine (List.map_congr_left ?_).trans (List.map_id ps)
  intro p hp
  have right := List.any_eq_false.mp none p hp
  rw [Pair.replaced]
  split_ifs with isType
  · have value : p.2 = EGL_PBUFFER_BIT := by simpa [isType] using right
    have type : p.1 = EGL_SURFACE_TYPE := of_decide_eq_true isType
    rw [← type, ← value]
    rfl
  · rfl

theorem passed_eq (ps : List Pair) (behind : List Int32) :
    let found : Found := ⟨(flat ps).length, ps.any Pair.isSurfaceType,
      ps.any fun p => p.isSurfaceType && p.2 ≠ EGL_PBUFFER_BIT⟩
    (newAttribs (flat ps ++ EGL_NONE :: behind) found).getD
        ((flat ps ++ EGL_NONE :: behind).take ((flat ps).length + 1)) =
      flat (ps.map Pair.replaced ++
        if ps.any Pair.isSurfaceType then [] else [(EGL_SURFACE_TYPE, EGL_PBUFFER_BIT)]) ++
        [EGL_NONE] := by
  intro found
  rw [newAttribs, List.take_left]
  by_cases must : (ps.any fun p => p.isSurfaceType && p.2 ≠ EGL_PBUFFER_BIT) = true
  · have has : ps.any Pair.isSurfaceType = true := by
      obtain ⟨p, hp, isType⟩ := List.any_eq_true.mp must
      exact List.any_eq_true.mpr ⟨p, hp, ((Bool.and_eq_true _ _).mp isType).1⟩
    rw [if_pos must, Option.getD_some, replaceSurfaceTypes_flat, if_pos has, List.append_nil]
  · rw [if_neg must, map_replaced_of_any ((Bool.not_eq_true _).mp must)]
    cases has : ps.any Pair.isSurfaceType with
    | true =>
      have same : found.hasSurfaceType = true := has
      rw [same, if_neg (by simp), Option.getD_none, if_pos rfl, List.append_nil,
        List.take_length_add_append]
      rfl
    | false =>
      have same : found.hasSurfaceType = false := has
      rw [same, if_pos (by simp), Option.getD_some, if_neg (by simp), flat, flat, List.flatMap_append,
        List.append_assoc]
      rfl

/-! The last loop. -/

/-- An entry that has the identifier of one of the configs. -/
def Matches (egl : Egl EGLConfig) (l : RendererConfigList) (matched : List EGLConfig) (k : Nat) : Prop :=
  ∃ config ∈ matched, isCompatibleHostConfig egl config = true ∧
    ∃ id ∈ l.ids[k]?, id = (egl.eglGetConfigAttrib config EGL_CONFIG_ID).getD (egl.uninitialized config)

theorem collect_spec {l : RendererConfigList} {configs : Bool} {configsSize : UInt32}
    {all matched : List EGLConfig} (among : ∀ config ∈ matched, config ∈ all) {result : Nat}
    {written : List Nat} (few : written.length ≤ result)
    (fits : written.length ≤ room configs configsSize)
    (good : ∀ k ∈ written, Matches egl l all k) :
    (collect egl l configs configsSize.toInt32 matched result written).2.length ≤
        room configs configsSize ∧
      ∀ k ∈ (collect egl l configs configsSize.toInt32 matched result written).2,
        Matches egl l all k := by
  induction matched generalizing result written with
  | nil => exact ⟨fits, good⟩
  | cons config rest ih =>
    obtain ⟨here, later⟩ := List.forall_mem_cons.mp among
    rw [collect]
    split_ifs with full other write
    · exact ⟨fits, good⟩
    · exact ih later few fits good
    · cases found : guestConfig egl l config with
      | none => exact ih later few fits good
      | some k =>
        obtain ⟨is_array, space⟩ := write
        have length : (written ++ [k]).length = written.length + 1 := List.length_append
        refine ih later (by omega) ?_ ?_
        · rw [room, if_pos is_array]
          omega
        · intro k' there
          obtain before | last := List.mem_append.mp there
          · exact good k' before
          · obtain rfl := List.mem_singleton.mp last
            obtain ⟨bound, same, -⟩ := List.findIdx?_eq_some_iff_getElem.mp found
            refine ⟨config, here, by simpa using other, l.ids[k'], ?_, of_decide_eq_true same⟩
            exact List.getElem?_eq_getElem bound
    · cases found : guestConfig egl l config with
      | none => exact ih later few fits good
      | some k => exact ih later (Nat.le_succ_of_le few) fits good

theorem collect_matches (l : RendererConfigList) (configs : Bool) (configsSize : UInt32)
    (matched : List EGLConfig) :
    (collect egl l configs configsSize.toInt32 matched 0 []).2.length ≤ room configs configsSize ∧
      ∀ k ∈ (collect egl l configs configsSize.toInt32 matched 0 []).2,
        Matches egl l matched k := by
  apply collect_spec
  · exact fun _ there => there
  · exact Nat.le_refl 0
  · exact Nat.zero_le _
  · exact fun _ none => absurd none List.not_mem_nil

theorem hits_cons (l : RendererConfigList) (config : EGLConfig) (rest : List EGLConfig) :
    hits egl l (config :: rest) =
      if isCompatibleHostConfig egl config then (guestConfig egl l config).toList ++ hits egl l rest
      else hits egl l rest := by
  rw [hits, List.filter_cons]
  split_ifs with compatible
  · rw [List.filterMap_cons]
    cases guestConfig egl l config with
    | none => rfl
    | some k => rfl
  · rfl

/-- Without an array, or with one of no size, all entries are counted and none is written. -/
theorem collect_counts {l : RendererConfigList} {configs : Bool} {configsSize : Int32}
    (none : configs = true → ¬ 0 < configsSize) (matched : List EGLConfig) (result : Nat)
    (written : List Nat) :
    collect egl l configs configsSize matched result written =
      (result + (hits egl l matched).length, written) := by
  induction matched generalizing result with
  | nil => rfl
  | cons config rest ih =>
    have open_ : ¬ (configs = true ∧ 0 < configsSize ∧ configsSize.toInt ≤ result) :=
      fun full => none full.1 full.2.1
    have no_room : ¬ (configs = true ∧ (result : Int) < configsSize.toInt) := by
      intro write
      have size := none write.1
      rw [Int32.lt_iff_toInt_lt, Int32.toInt_zero] at size
      omega
    rw [collect, if_neg open_, hits_cons]
    cases compatible : isCompatibleHostConfig egl config with
    | false => rw [if_pos (by simp), ih, if_neg (by simp)]
    | true =>
      rw [if_neg (by simp), if_pos rfl]
      cases guestConfig egl l config with
      | none => exact ih result
      | some k =>
        simp only [if_neg no_room]
        rw [ih, Option.toList_some, List.length_append, List.length_singleton, Nat.add_assoc]

/-- In an array with room the entries that are counted are written. -/
theorem collect_number {l : RendererConfigList} {configsSize : Int32} (size : 0 < configsSize)
    (matched : List EGLConfig) {result : Nat} {written : List Nat} (same : result = written.length) :
    (collect egl l true configsSize matched result written).1 =
      (collect egl l true configsSize matched result written).2.length := by
  induction matched generalizing result written with
  | nil => exact same
  | cons config rest ih =>
    rw [collect]
    split_ifs with full other write
    · exact same
    · exact ih same
    · cases guestConfig egl l config with
      | none => exact ih same
      | some k =>
        apply ih
        rw [List.length_append, List.length_singleton, same]
    · cases guestConfig egl l config with
      | none => exact ih same
      | some k =>
        have behind : configsSize.toInt ≤ result := by
          by_contra room
          exact write ⟨rfl, by omega⟩
        exact absurd ⟨rfl, size, behind⟩ full

/-- The array has room, or nothing has to be written to it. -/
def Room (egl : Egl EGLConfig) (renderer : Option RendererConfigList) (given : List Int32)
    (attribsSize : UInt32) (configs : Bool) (configsSize : UInt32) : Prop :=
  configs = false ∨ 0 < configsSize.toInt32 ∨
    found egl renderer (asked egl renderer given attribsSize) = []

variable (egl)

theorem idle_safe {renderer : Option RendererConfigList} {given : List Int32} {attribsSize : UInt32}
    (configs : Bool) (configsSize : UInt32) (idle : asked egl renderer given attribsSize = none) :
    Safe egl renderer given attribsSize configs configsSize ⟨[], none, [], some 0⟩ where
  reads := nofun
  asks := idle.symm
  room := Nat.zero_le _
  returned := nofun
  number := by
    cases configs <;> cases renderer <;> rfl

theorem chooseConfig_reads {hostConfigs : List EGLConfig} (host : egl.eglGetConfigs = some hostConfigs)
    (l : RendererConfigList) (memory : List Int32) (configs : Bool) (configsSize : Int32) {i : Nat}
    (hi : i ∈ (scan 0 false false memory).1) :
    i ∈ (chooseConfig egl l memory configs configsSize).reads := by
  rw [chooseConfig, host]
  simp only
  split
  · next reads found =>
    rw [found] at hi
    exact hi
  · next reads result found =>
    rw [found] at hi
    exact List.mem_append_left _ hi

/-- A list with an end is scanned, and EGL is asked. -/
theorem chooseConfig_terminated {given : List Int32} (terminated : Terminated given)
    {hostConfigs : List EGLConfig} (host : egl.eglGetConfigs = some hostConfigs)
    (l : RendererConfigList) (behind : List Int32) (configs : Bool) (configsSize : Int32) :
    ∃ reads, (∀ i ∈ reads, i < given.length) ∧
      chooseConfig egl l (given ++ behind) configs configsSize =
        let matched := (egl.eglChooseConfig (wanted given) hostConfigs.length).getD []
        let collected := collect egl l configs configsSize matched 0 []
        ⟨reads, some (wanted given, matched), collected.2, some collected.1⟩ := by
  obtain ⟨rest, split⟩ := terminated.split
  obtain ⟨reads, scanned, bound⟩ :=
    scan_flat (pairs_ne_none given) (rest ++ behind) 0 false false
  have memory : given ++ behind = flat (pairs given) ++ EGL_NONE :: (rest ++ behind) := by
    rw [split, List.append_assoc, List.cons_append, ← split]
  have inside : (flat (pairs given)).length < given.length := by
    have length := congrArg List.length split
    rw [List.length_append, List.length_cons] at length
    omega
  simp only [Nat.zero_add, Bool.false_or] at scanned bound
  refine ⟨reads ++ List.range ((flat (pairs given)).length + 1), ?_, ?_⟩
  · intro i hi
    obtain scanned | copied := List.mem_append.mp hi
    · exact Nat.lt_of_le_of_lt (bound i scanned) inside
    · have below := List.mem_range.mp copied
      omega
  · have passed := passed_eq (pairs given) (rest ++ behind)
    simp only at passed
    rw [chooseConfig, host]
    simp only [memory, scanned, passed]
    rfl

theorem asked_of_some (l : RendererConfigList) (given : List Int32) {attribsSize : UInt32}
    (some_ : attribsSize ≠ 0) : asked egl (some l) given attribsSize =
      egl.eglGetConfigs.map fun hostConfigs =>
        (wanted given, (egl.eglChooseConfig (wanted given) hostConfigs.length).getD []) :=
  if_neg (by simp [some_])

/-- A list with an end is handled safely exactly where there is room for what is counted. -/
theorem chooseConfig_safe_iff {given : List Int32} (terminated : Terminated given)
    {hostConfigs : List EGLConfig} (host : egl.eglGetConfigs = some hostConfigs)
    (l : RendererConfigList) (behind : List Int32) {attribsSize : UInt32}
    (some_ : attribsSize ≠ 0) (configs : Bool) (configsSize : UInt32) :
    Safe egl (some l) given attribsSize configs configsSize
        (chooseConfig egl l (given ++ behind) configs configsSize.toInt32) ↔
      Room egl (some l) given attribsSize configs configsSize := by
  obtain ⟨reads, inside, outcome⟩ :=
    chooseConfig_terminated egl terminated host l behind configs configsSize.toInt32
  have asks := asked_of_some egl l given some_
  rw [host, Option.map_some] at asks
  rw [outcome, Room, asks]
  generalize (egl.eglChooseConfig (wanted given) hostConfigs.length).getD [] = matched at asks ⊢
  have matches_ := @collect_matches _ egl l configs configsSize matched
  have safe (number : (collect egl l configs configsSize.toInt32 matched 0 []).1 =
      if configs then (collect egl l configs configsSize.toInt32 matched 0 []).2.length
      else (hits egl l matched).length) :
      Safe egl (some l) given attribsSize configs configsSize
        ⟨reads, some (wanted given, matched),
          (collect egl l configs configsSize.toInt32 matched 0 []).2,
          some (collect egl l configs configsSize.toInt32 matched 0 []).1⟩ := by
    refine ⟨inside, asks.symm, matches_.1, fun k hk => ?_, congrArg some number⟩
    obtain ⟨config, there, compatible, id_, hid, same⟩ := matches_.2 k hk
    exact ⟨l, rfl, _, rfl, config, there, compatible, id_, hid, same⟩
  constructor
  · intro h
    by_contra room
    obtain ⟨array, more⟩ := not_or.mp room
    obtain ⟨none, some_hit⟩ := not_or.mp more
    obtain rfl : configs = true := (Bool.not_eq_false _).mp array
    have number := Option.some.inj h.number
    simp only at number
    rw [collect_counts (fun _ => none), if_pos trivial, Nat.zero_add] at number
    exact some_hit (List.length_eq_zero_iff.mp number)
  · intro room
    apply safe
    obtain rfl | size | none := room
    · rw [collect_counts (fun array => by cases array), if_neg (by simp), Nat.zero_add]
    · cases configs with
      | false => rw [collect_counts (fun array => by cases array), if_neg (by simp), Nat.zero_add]
      | true => exact collect_number size matched rfl
    · have few : (hits egl l matched).length = 0 := List.length_eq_zero_iff.mpr none
      by_cases size : configs = true ∧ 0 < configsSize.toInt32
      · obtain ⟨rfl, size⟩ := size
        exact collect_number size matched rfl
      · rw [collect_counts (fun array positive => size ⟨array, positive⟩), few]
        cases configs <;> rfl

/-- A call is safe exactly when it looks at no attribute, or `EGL_NONE` stands in a place of an attribute
among those that are given and there is room for what is counted. -/
theorem rcChooseConfig_safe_iff (renderer : Option RendererConfigList) (given behind : List Int32)
    (attribsSize : UInt32) (configs : Bool) (configsSize : UInt32)
    (sent : given.length = attribsSize.toNat / 4) :
    Safe egl renderer given attribsSize configs configsSize
        (rcChooseConfig egl renderer (given ++ behind) attribsSize configs configsSize) ↔
      renderer = none ∨ attribsSize = 0 ∨ egl.eglGetConfigs = none ∨
        Terminated given ∧ Room egl renderer given attribsSize configs configsSize := by
  cases renderer with
  | none => exact iff_of_true (idle_safe egl _ _ (if_pos (Or.inl rfl))) (Or.inl rfl)
  | some l =>
    rw [rcChooseConfig]
    by_cases empty : attribsSize = 0
    · rw [if_pos empty]
      exact iff_of_true (idle_safe egl _ _ (if_pos (Or.inr empty))) (Or.inr (Or.inl empty))
    rw [if_neg empty]
    cases host : egl.eglGetConfigs with
    | none =>
      rw [chooseConfig, host]
      refine iff_of_true (idle_safe egl _ _ ?_) (Or.inr (Or.inr (Or.inl rfl)))
      rw [asked_of_some egl l given empty, host, Option.map_none]
    | some hostConfigs =>
      by_cases terminated : Terminated given
      · rw [chooseConfig_safe_iff egl terminated host l behind empty]
        simp [empty, terminated]
      · refine iff_of_false ?_ (by simp [empty, terminated])
        intro safe
        obtain ⟨i, hi, far⟩ := scan_beyond terminated behind 0 false false
        have near := safe.reads i (chooseConfig_reads egl host l _ configs _ hi)
        omega

/-- A host with one config, which has all that is asked for. -/
def oneConfig : Egl Unit where
  eglGetConfigs := some [()]
  eglChooseConfig := fun _ n => some ([()].take n)
  eglGetConfigAttrib := fun _ _ => some 1
  uninitialized := fun _ => 0

theorem empty_list_safe :
    [EGL_NONE].length = (4 : UInt32).toNat / 4 ∧
      (Safe oneConfig (some (.make oneConfig)) [EGL_NONE] 4 true 1
        (rcChooseConfig oneConfig (some (.make oneConfig)) ([EGL_NONE] ++ []) 4 true 1) ↔
        some (RendererConfigList.make oneConfig) = none ∨ (4 : UInt32) = 0 ∨
          oneConfig.eglGetConfigs = none ∨ Terminated [EGL_NONE] ∧
            Room oneConfig (some (.make oneConfig)) [EGL_NONE] 4 true 1) :=
  ⟨rfl, rcChooseConfig_safe_iff oneConfig (some (.make oneConfig)) [EGL_NONE] [] 4 true 1 rfl⟩

/-- One attribute with its value, and no end. -/
theorem unterminated_read_beyond : ¬ ∀ (renderer : Option RendererConfigList)
    (given behind : List Int32) (attribsSize : UInt32) (configs : Bool) (configsSize : UInt32),
    given.length = attribsSize.toNat / 4 → Safe oneConfig renderer given attribsSize configs
      configsSize (rcChooseConfig oneConfig renderer (given ++ behind) attribsSize configs configsSize) := by
  intro h
  have safe := h (some (.make oneConfig)) [EGL_RED_SIZE, 8] [] 8 true 1 rfl
  exact absurd (safe.reads 2 (by decide)) (by decide)

end Anbox.Graphics.RendererConfig
