import Anbox.Framework.Run
import Anbox.Gles2.UniformLocations

namespace Anbox.Gles2

open Anbox.Framework

variable {V : Type*}

/-! The programs of a GL, with the values of their uniforms. -/

structure GLPrograms (V : Type*) where
  current : GLuint
  isProgram : GLuint → Bool
  linkStatus : GLuint → Bool
  executable : GLuint → Option Executable
  values : GLuint → Nat × Nat → Option V

namespace GLPrograms

def initial : GLPrograms V := ⟨0, fun _ => false, fun _ => false, fun _ => none, fun _ _ => none⟩

variable (g : GLPrograms V)

def createProgram (program : GLuint) : GLPrograms V :=
  { g with isProgram := Function.update g.isProgram program true }

/-- Where linking fails, what was linked before can still be in use. -/
def linkProgram (program : GLuint) : Option Executable → GLPrograms V
  | none => { g with linkStatus := Function.update g.linkStatus program false }
  | some x =>
    { g with
      linkStatus := Function.update g.linkStatus program true
      executable := Function.update g.executable program (some x)
      values := Function.update g.values program fun _ => none }

def useProgram (program : GLuint) : GLPrograms V :=
  if program = 0 ∨ g.linkStatus program = true then { g with current := program } else g

/-- Of a program that is not in use. -/
def deleteProgram (program : GLuint) : GLPrograms V :=
  { g with
    isProgram := Function.update g.isProgram program false
    linkStatus := Function.update g.linkStatus program false
    executable := Function.update g.executable program none }

def element (program : GLuint) (name : List UInt8) : Option (Nat × Nat) :=
  (g.executable program).bind fun x => x.element name

def getUniformLocation (program : GLuint) (name : List UInt8) : Int :=
  if g.linkStatus program = true then
    match g.executable program with
    | none => -1
    | some x => x.location name
  else -1

/-- The values go to an element and to those behind it, as far as there are any. -/
def put (x : Executable) (values : List V) (e : Nat × Nat) : GLPrograms V :=
  { g with values := Function.update g.values g.current fun e' =>
      if e'.1 = e.1 ∧ e.2 ≤ e'.2 ∧ e'.2 < (x.uniform e.1).size ∧ e'.2 - e.2 < values.length then
        values[e'.2 - e.2]?
      else g.values g.current e' }

def uniform (location : Int) (values : List V) : GLPrograms V :=
  if location = -1 then g
  else
    match g.executable g.current with
    | none => g
    | some x =>
      match x.locate location with
      | none => g
      | some e => g.put x values e

end GLPrograms

/-! The app, which sets uniforms that it has asked the location of. It asks again after a link. -/

inductive UniformCall (V : Type*) where
  | createProgram (program : GLuint)
  | linkProgram (program : GLuint) (result : Option Executable)
  | useProgram (program : GLuint)
  | deleteProgram (program : GLuint)
  | getUniformLocation (program : GLuint) (name : List UInt8)
  | uniform (name : List UInt8) (values : List V)

/-- The app with a GL of its own, where a name stands for its element. `known` are the names whose
locations the app has. -/
structure UniformApp (V : Type*) where
  gl : GLPrograms V
  known : GLuint → List UInt8 → Bool

namespace UniformApp

def initial : UniformApp V := ⟨.initial, fun _ _ => false⟩

variable (s : UniformApp V)

def forget (program : GLuint) : GLuint → List UInt8 → Bool :=
  Function.update s.known program fun _ => false

def finds (program : GLuint) (name : List UInt8) : Bool :=
  s.gl.linkStatus program && (s.gl.element program name).isSome

def set (name : List UInt8) (values : List V) : GLPrograms V :=
  if s.known s.gl.current name = true then
    match s.gl.executable s.gl.current, s.gl.element s.gl.current name with
    | some x, some e => s.gl.put x values e
    | _, _ => s.gl
  else s.gl

def call : UniformCall V → Option (UniformApp V)
  | .createProgram program => some ⟨s.gl.createProgram program, s.forget program⟩
  | .linkProgram program none => some { s with gl := s.gl.linkProgram program none }
  | .linkProgram program (some x) => some ⟨s.gl.linkProgram program (some x), s.forget program⟩
  | .useProgram program => some { s with gl := s.gl.useProgram program }
  | .deleteProgram program => some ⟨s.gl.deleteProgram program, s.forget program⟩
  | .getUniformLocation program name =>
    some { s with
      known := Function.update s.known program
        (Function.update (s.known program) name (s.finds program name)) }
  | .uniform name values => some { s with gl := s.set name values }

/-- Names of programs are new, what is used has been linked, and what is in use is not deleted. -/
def Covered : UniformCall V → Prop
  | .createProgram program => s.gl.isProgram program = false
  | .linkProgram program (some _) => s.gl.isProgram program = true
  | .useProgram program => program = 0 ∨ s.gl.linkStatus program = true
  | .deleteProgram program => program ≠ s.gl.current
  | _ => True

end UniformApp

/-- The app in the guest with the locations it was given, what the encoder notes, and the host. -/
structure StreamedUniforms (V : Type*) where
  locations : GLuint → List UInt8 → Int
  currentProgram : GLuint
  mPrograms : GLSharedGroup.Programs
  host : GLPrograms V

namespace StreamedUniforms

variable (memory : Nat → IndexInfo)

def initial : StreamedUniforms V := ⟨fun _ _ => -1, 0, fun _ => none, .initial⟩

variable (t : StreamedUniforms V)

def forget (program : GLuint) : GLuint → List UInt8 → Int :=
  Function.update t.locations program fun _ => -1

def call : UniformCall V → Option (StreamedUniforms V)
  | .createProgram program =>
    some { t with
      locations := t.forget program
      mPrograms := GLSharedGroup.addProgramData memory t.mPrograms program
      host := t.host.createProgram program }
  | .linkProgram program none => some { t with host := t.host.linkProgram program none }
  | .linkProgram program (some x) =>
    some { t with
      locations := t.forget program
      mPrograms := GLSharedGroup.linked memory t.mPrograms program x
      host := t.host.linkProgram program (some x) }
  | .useProgram program =>
    some { t with currentProgram := program, host := t.host.useProgram program }
  | .deleteProgram program =>
    some { t with
      locations := t.forget program
      mPrograms := GLSharedGroup.deleteProgramData t.mPrograms program
      host := t.host.deleteProgram program }
  | .getUniformLocation program name =>
    let answer := GLSharedGroup.sGlGetUniformLocation t.mPrograms program name
      (t.host.getUniformLocation program name)
    some { t with
      locations := Function.update t.locations program
        (Function.update (t.locations program) name answer.1)
      mPrograms := answer.2 }
  | .uniform name values =>
    (GLSharedGroup.getHostLocation t.mPrograms t.currentProgram
        (t.locations t.currentProgram name)).map fun hostLoc =>
      { t with host := t.host.uniform hostLoc values }

end StreamedUniforms

/-- The guest's notes reflect each program the host has linked, and the app has its location for each
name that it knows. -/
structure Serves (s : UniformApp V) (t : StreamedUniforms V) : Prop where
  host : t.host = s.gl
  current : t.currentProgram = s.gl.current
  noted : ∀ p, s.gl.isProgram p = true → t.mPrograms p ≠ none
  created : ∀ p, s.gl.isProgram p = false → s.gl.executable p = none
  reflected : ∀ {p x}, s.gl.executable p = some x → ∃ d, t.mPrograms p = some d ∧ Reflects x (s.known p) d
  given : ∀ {p name}, s.known p name = true → ∃ x i j, s.gl.executable p = some x ∧
    x.element name = some (i, j) ∧ t.locations p name = x.appLocation i j
  missing : ∀ {p name}, s.known p name = false → t.locations p name = -1

namespace Serves

variable {memory : Nat → IndexInfo} {s : UniformApp V} {t : StreamedUniforms V}

theorem initial : Serves (V := V) .initial .initial where
  host := rfl
  current := rfl
  noted := nofun
  created := fun _ _ => rfl
  reflected := nofun
  given := nofun
  missing := fun _ => rfl

/-- A program is replaced, and the app forgets its locations. -/
theorem replace (h : Serves s t) {program : GLuint} {g : GLPrograms V} {m : Option ProgramData}
    (current : g.current = s.gl.current)
    (others : ∀ p, p ≠ program → g.isProgram p = s.gl.isProgram p ∧ g.executable p = s.gl.executable p)
    (noted : g.isProgram program = true → m ≠ none)
    (created : g.isProgram program = false → g.executable program = none)
    (reflected : ∀ x, g.executable program = some x → ∃ d, m = some d ∧ Reflects x (fun _ => false) d) :
    Serves ⟨g, s.forget program⟩
      ⟨t.forget program, t.currentProgram, Function.update t.mPrograms program m, g⟩ := by
  refine ⟨rfl, h.current.trans current.symm, ?_, ?_, ?_, ?_, ?_⟩
  · intro p hp
    by_cases same : p = program
    · subst same
      simpa only [Function.update_self] using noted hp
    · simp only [Function.update_of_ne same]
      exact h.noted p ((others p same).1.symm.trans hp)
  · intro p hp
    by_cases same : p = program
    · subst same
      exact created hp
    · exact (others p same).2.trans (h.created p ((others p same).1.symm.trans hp))
  · intro p x hx
    by_cases same : p = program
    · subst same
      simpa only [UniformApp.forget, Function.update_self] using reflected x hx
    · simp only [UniformApp.forget, Function.update_of_ne same]
      exact h.reflected ((others p same).2.symm.trans hx)
  · intro p name known
    by_cases same : p = program
    · simp only [same, UniformApp.forget, Function.update_self] at known
      cases known
    · simp only [UniformApp.forget, StreamedUniforms.forget, Function.update_of_ne same] at known ⊢
      rw [(others p same).2]
      exact h.given known
  · intro p name unknown
    by_cases same : p = program
    · simp only [same, StreamedUniforms.forget, Function.update_self]
    · simp only [UniformApp.forget, StreamedUniforms.forget, Function.update_of_ne same] at unknown ⊢
      exact h.missing unknown

theorem createProgram (h : Serves s t) {program : GLuint} (new : s.gl.isProgram program = false) :
    Serves ⟨s.gl.createProgram program, s.forget program⟩
      { t with
        locations := t.forget program
        mPrograms := GLSharedGroup.addProgramData memory t.mPrograms program
        host := t.host.createProgram program } := by
  rw [h.host]
  refine h.replace rfl ?_ (fun _ => Option.some_ne_none _) (fun _ => h.created program new) ?_
  · intro p other
    exact ⟨Function.update_of_ne other _ _, rfl⟩
  · intro x hx
    exact absurd ((h.created program new).symm.trans hx) nofun

theorem linkProgram (h : Serves s t) {program : GLuint} (there : s.gl.isProgram program = true)
    (x : Executable) :
    Serves ⟨s.gl.linkProgram program (some x), s.forget program⟩
      { t with
        locations := t.forget program
        mPrograms := GLSharedGroup.linked memory t.mPrograms program x
        host := t.host.linkProgram program (some x) } := by
  obtain ⟨d, linked, reflects⟩ := linked_reflects memory x (h.noted program there)
  rw [h.host, linked]
  refine h.replace rfl ?_ (fun _ => Option.some_ne_none d) ?_ ?_
  · intro p other
    exact ⟨rfl, Function.update_of_ne other _ _⟩
  · intro missing
    exact absurd (there.symm.trans missing) (by decide)
  · intro x' hx
    obtain rfl : x = x' := Option.some.inj ((Function.update_self program _ _).symm.trans hx)
    exact ⟨d, rfl, reflects⟩

/-- The old program stays where linking fails. -/
theorem linkProgram_fails (h : Serves s t) (program : GLuint) :
    Serves { s with gl := s.gl.linkProgram program none }
      { t with host := t.host.linkProgram program none } := by
  rw [h.host]
  exact ⟨rfl, h.current, h.noted, h.created, h.reflected, h.given, h.missing⟩

theorem useProgram (h : Serves s t) {program : GLuint}
    (linked : program = 0 ∨ s.gl.linkStatus program = true) :
    Serves { s with gl := s.gl.useProgram program }
      { t with currentProgram := program, host := t.host.useProgram program } := by
  rw [h.host, GLPrograms.useProgram, if_pos linked]
  exact ⟨rfl, rfl, h.noted, h.created, h.reflected, h.given, h.missing⟩

theorem deleteProgram (h : Serves s t) (program : GLuint) :
    Serves ⟨s.gl.deleteProgram program, s.forget program⟩
      { t with
        locations := t.forget program
        mPrograms := GLSharedGroup.deleteProgramData t.mPrograms program
        host := t.host.deleteProgram program } := by
  have gone : (s.gl.deleteProgram program).executable program = none := Function.update_self program _ _
  rw [h.host]
  refine h.replace rfl ?_ ?_ (fun _ => gone) ?_
  · intro p other
    exact ⟨Function.update_of_ne other _ _, Function.update_of_ne other _ _⟩
  · intro there
    exact absurd ((Function.update_self program _ _).symm.trans there) (by decide)
  · intro x hx
    exact absurd (gone.symm.trans hx) nofun

/-- What the host answers where the app finds a name, and where it does not. -/
theorem finds_cases (s : UniformApp V) (program : GLuint) (name : List UInt8) :
    (∃ x i j, s.finds program name = true ∧ s.gl.executable program = some x ∧
      x.element name = some (i, j) ∧ s.gl.getUniformLocation program name = x.place i j) ∨
    (s.finds program name = false ∧ s.gl.getUniformLocation program name = -1) := by
  by_cases linked : s.gl.linkStatus program = true
  · cases executable : s.gl.executable program with
    | none =>
      exact .inr ⟨by simp [UniformApp.finds, GLPrograms.element, executable],
        by simp [GLPrograms.getUniformLocation, executable]⟩
    | some x =>
      cases element : x.element name with
      | none =>
        exact .inr ⟨by simp [UniformApp.finds, GLPrograms.element, executable, element],
          by simp [GLPrograms.getUniformLocation, executable, Executable.location_none element]⟩
      | some e =>
        exact .inl ⟨x, e.1, e.2, by simp [UniformApp.finds, GLPrograms.element, executable, element, linked],
          rfl, element, by simp [GLPrograms.getUniformLocation, linked, executable,
            Executable.location_some element]⟩
  · exact .inr ⟨by simp [UniformApp.finds, linked], if_neg linked⟩

theorem update_at {β : Type*} (f : GLuint → List UInt8 → β) (program : GLuint) (name : List UInt8) (b : β)
    (p : GLuint) (n : List UInt8) :
    Function.update f program (Function.update (f program) name b) p n =
      if p = program ∧ n = name then b else f p n := by
  by_cases same : p = program
  · subst same
    rw [Function.update_self, Function.update_apply]
    simp only [true_and]
  · rw [Function.update_of_ne same, if_neg fun both => same both.1]

/-- The app gets the location of a name that is found. -/
theorem asked (h : Serves s t) {program : GLuint} {name : List UInt8} {x : Executable} {i j : Nat}
    {d : ProgramData} (executable : s.gl.executable program = some x)
    (element : x.element name = some (i, j))
    (reflects : Reflects x (Function.update (s.known program) name true) d) :
    Serves { s with
        known := Function.update s.known program (Function.update (s.known program) name true) }
      { t with
        locations := Function.update t.locations program
          (Function.update (t.locations program) name (x.appLocation i j))
        mPrograms := Function.update t.mPrograms program (some d) } := by
  refine ⟨h.host, h.current, ?_, h.created, ?_, ?_, ?_⟩
  · intro p hp
    by_cases same : p = program
    · simp [same]
    · simpa only [Function.update_of_ne same] using h.noted p hp
  · intro p x' hx
    by_cases same : p = program
    · subst same
      obtain rfl : x = x' := Option.some.inj (executable.symm.trans hx)
      simpa only [Function.update_self] using ⟨d, rfl, reflects⟩
    · simpa only [Function.update_of_ne same] using h.reflected hx
  · intro p name' known
    simp only [update_at] at known ⊢
    split_ifs at known ⊢ with here
    · obtain ⟨rfl, rfl⟩ := here
      exact ⟨x, i, j, executable, element, rfl⟩
    · exact h.given known
  · intro p name' unknown
    simp only [update_at] at unknown ⊢
    split_ifs at unknown ⊢
    exact h.missing unknown

/-- The app gets no location for a name that is not. -/
theorem asked_in_vain (h : Serves s t) (program : GLuint) (name : List UInt8) :
    Serves { s with
        known := Function.update s.known program (Function.update (s.known program) name false) }
      { t with
        locations := Function.update t.locations program
          (Function.update (t.locations program) name (-1)) } := by
  have fewer {p : GLuint} {name' : List UInt8} (known : Function.update s.known program
      (Function.update (s.known program) name false) p name' = true) :
      ¬(p = program ∧ name' = name) ∧ s.known p name' = true := by
    rw [update_at] at known
    split_ifs at known with here
    exact ⟨here, known⟩
  refine ⟨h.host, h.current, h.noted, h.created, ?_, ?_, ?_⟩
  · intro p x hx
    obtain ⟨d, there, reflects⟩ := h.reflected hx
    exact ⟨d, there, reflects.forget fun name' known => (fewer known).2⟩
  · intro p name' known
    simp only [update_at, if_neg (fewer known).1]
    exact h.given (fewer known).2
  · intro p name' unknown
    simp only [update_at] at unknown ⊢
    split_ifs at unknown ⊢
    · rfl
    · exact h.missing unknown

theorem getUniformLocation (h : Serves s t) (program : GLuint) (name : List UInt8) :
    ∃ t', StreamedUniforms.call memory t (.getUniformLocation program name) = some t' ∧
      Serves { s with
        known := Function.update s.known program
          (Function.update (s.known program) name (s.finds program name)) } t' := by
  have same : t.host.getUniformLocation program name = s.gl.getUniformLocation program name := by
    rw [h.host]
  refine ⟨_, rfl, ?_⟩
  rw [same]
  rcases finds_cases s program name with ⟨x, i, j, found, executable, element, answer⟩ | ⟨lost, answer⟩
  · obtain ⟨d, there, reflects⟩ := h.reflected executable
    obtain ⟨d', gives, reflects'⟩ := reflects.query there element
    rw [answer, gives, found]
    exact h.asked executable element reflects'
  · rw [answer, query_missing, lost]
    exact h.asked_in_vain program name

/-- The host gets the location of the element the name stands for. -/
theorem uniform (h : Serves s t) (name : List UInt8) (values : List V) :
    ∃ t', StreamedUniforms.call memory t (.uniform name values) = some t' ∧
      Serves { s with gl := s.set name values } t' := by
  have kept (g : GLPrograms V) (current : g.current = s.gl.current)
      (isProgram : g.isProgram = s.gl.isProgram) (executable : g.executable = s.gl.executable) :
      Serves { s with gl := g } { t with host := g } := by
    refine ⟨rfl, h.current.trans current.symm, ?_, ?_, ?_, ?_, h.missing⟩
    · rw [isProgram]
      exact h.noted
    · rw [isProgram, executable]
      exact h.created
    · rw [executable]
      exact h.reflected
    · rw [executable]
      exact h.given
  by_cases known : s.known s.gl.current name = true
  · obtain ⟨x, i, j, executable, element, location⟩ := h.given known
    obtain ⟨d, there, reflects⟩ := h.reflected executable
    obtain ⟨hi, hj⟩ := x.inside element
    have sets : s.set name values = s.gl.put x values (i, j) := by
      simp [UniformApp.set, known, executable, GLPrograms.element, element]
    have placed : x.place i j ≠ -1 := by
      have := x.nonneg i j
      omega
    have writes : s.gl.uniform (x.place i j) values = s.gl.put x values (i, j) := by
      simp [GLPrograms.uniform, placed, executable, Executable.locate_place hi hj]
    refine ⟨{ t with host := s.gl.put x values (i, j) }, ?_, ?_⟩
    · rw [StreamedUniforms.call, h.current, location, reflects.getHostLocation there known element,
        Option.map_some, h.host, writes]
    · rw [sets]
      exact kept _ rfl rfl rfl
  · have sets : s.set name values = s.gl := if_neg known
    have location : t.locations s.gl.current name = -1 := h.missing ((Bool.not_eq_true _).mp known)
    refine ⟨{ t with host := s.gl }, ?_, ?_⟩
    · rw [StreamedUniforms.call, h.current, location, GLSharedGroup.getHostLocation, if_pos rfl,
        Option.map_some, h.host, GLPrograms.uniform, if_pos rfl]
    · rw [sets]
      exact kept _ rfl rfl rfl

end Serves

/-- One call of the app is served. -/
theorem serves_call (memory : Nat → IndexInfo) (s : UniformApp V) (t : StreamedUniforms V)
    (c : UniformCall V) (s' : UniformApp V) (h : Serves s t) (covered : s.Covered c)
    (did : s.call c = some s') : ∃ t', t.call memory c = some t' ∧ Serves s' t' := by
  cases c with
  | createProgram program => exact ⟨_, rfl, Option.some.inj did ▸ h.createProgram covered⟩
  | linkProgram program result =>
    cases result with
    | none => exact ⟨_, rfl, Option.some.inj did ▸ h.linkProgram_fails program⟩
    | some x => exact ⟨_, rfl, Option.some.inj did ▸ h.linkProgram covered x⟩
  | useProgram program => exact ⟨_, rfl, Option.some.inj did ▸ h.useProgram covered⟩
  | deleteProgram program => exact ⟨_, rfl, Option.some.inj did ▸ h.deleteProgram program⟩
  | getUniformLocation program name => exact Option.some.inj did ▸ h.getUniformLocation program name
  | uniform name values => exact Option.some.inj did ▸ h.uniform name values

/-- In every run of calls that the codec covers, whatever memory the notes are made in, the values of
the uniforms on the host are those the app has set by their names. -/
theorem uniforms_streamed (memory : Nat → IndexInfo) {calls : List (UniformCall V)} {s : UniformApp V}
    (covered : Along UniformApp.call UniformApp.Covered .initial calls)
    (did : run UniformApp.call .initial calls = some s) :
    ∃ t, run (StreamedUniforms.call memory) .initial calls = some t ∧ t.host = s.gl := by
  obtain ⟨t, ht, serves⟩ := run_simulated (serves_call memory) Serves.initial covered did
  exact ⟨t, ht, serves.host⟩

/-- An array of three at 0, in steps of 2, and a uniform at 2^16. -/
def lights : Executable where
  numUniforms := 2
  uniform i := if i = 0 then ⟨[97, 91, 48, 93], 3, GL_FLOAT⟩ else ⟨[98], 1, GL_FLOAT⟩
  element name :=
    if name = [97, 91, 48, 93] then some (0, 0)
    else if name = [97, 91, 50, 93] then some (0, 2)
    else if name = [98] then some (1, 0)
    else none
  place i j := 2^16*i + 2*j
  inside := by
    intro name i j h
    split_ifs at h <;> obtain ⟨rfl, rfl⟩ := Prod.mk.inj (Option.some.inj h) <;> decide
  own := by decide
  first := by
    intro name i j h
    split_ifs at h <;> obtain ⟨rfl, rfl⟩ := Prod.mk.inj (Option.some.inj h) <;> decide
  named := by
    intro name i j h
    split_ifs at h with a0 a2 b <;> obtain ⟨rfl, rfl⟩ := Prod.mk.inj (Option.some.inj h)
    · exact a0 ▸ .inr ⟨[97], [48], rfl, by decide, List.forall_mem_singleton.mpr rfl, rfl⟩
    · exact a2 ▸ .inr ⟨[97], [50], rfl, by decide, List.forall_mem_singleton.mpr rfl, rfl⟩
    · exact b ▸ .inl ⟨rfl, by decide⟩
  typed := by decide
  nonneg := by omega
  above := by omega
  apart := by
    intro i hi j hj i' hi' j' hj' same
    have small {k l : Nat} (hl : l < (if k = 0 then (⟨[97, 91, 48, 93], 3, GL_FLOAT⟩ : ActiveUniform)
        else ⟨[98], 1, GL_FLOAT⟩).size) : l < 3 := by
      split_ifs at hl
      · exact hl
      · exact Nat.lt_trans hl (by decide)
    have := small hj
    have := small hj'
    omega
  spread := by
    intro _
    refine ⟨fun _ => 2, ?_⟩
    intro i hi j hj
    have small : j < 3 := by
      split_ifs at hj
      · exact hj
      · exact Nat.lt_trans hj (by decide)
    refine ⟨by beta_reduce; omega, ?_⟩
    intro k hk before
    omega

def lightCalls : List (UniformCall Nat) :=
  [.createProgram 1, .linkProgram 1 (some lights), .useProgram 1,
    .getUniformLocation 1 [97, 91, 50, 93], .getUniformLocation 1 [98],
    .uniform [97, 91, 50, 93] [7], .uniform [98] [8]]

/-- The memory holds anything. -/
theorem lights_streamed : ∃ t, run (StreamedUniforms.call fun _ => ⟨5, -2, 3, 9, 4⟩) .initial lightCalls =
    some t ∧ t.host.values 1 (0, 2) = some 7 ∧ t.host.values 1 (1, 0) = some 8 := by
  have covered : Along UniformApp.call UniformApp.Covered .initial lightCalls :=
    along_cons rfl rfl (along_cons rfl rfl (along_cons rfl (.inr rfl) (along_cons rfl trivial
      (along_cons rfl trivial (along_cons rfl trivial (along_cons rfl trivial trivial))))))
  have did : (run UniformApp.call .initial lightCalls).map (fun s =>
      (s.gl.values 1 (0, 2), s.gl.values 1 (1, 0))) = some (some 7, some 8) := by decide
  obtain ⟨s, hs, values⟩ := Option.map_eq_some_iff.mp did
  obtain ⟨t, ht, same⟩ := uniforms_streamed (fun _ => ⟨5, -2, 3, 9, 4⟩) covered hs
  refine ⟨t, ht, ?_, ?_⟩
  · rw [same]
    exact (Prod.mk.inj values).1
  · rw [same]
    exact (Prod.mk.inj values).2

end Anbox.Gles2
