import Mathlib.Data.List.DropRight
import Anbox.Application.LauncherStorage
import Anbox.Framework.Counted
import Anbox.Framework.Transducer

namespace Anbox.Application.DesktopEntry

open Anbox.Framework
open LauncherStorage

/-! The grammar of desktop entries, for the reader. -/

inductive Element where
  | group (name : List Char)
  | entry (key value : List Char)
  deriving DecidableEq

def blank (c : Char) : Bool := c = ' ' ∨ c = '\t'

def trim (l : List Char) : List Char := (l.rdropWhile blank).dropWhile blank

/-- Blank lines and comments. -/
def ignored (l : List Char) : Bool := l.all blank || l.head? = some '#'

def significant (text : List Char) : List (List Char) := (text.splitOn '\n').filter fun l => !ignored l

/-- A line that is neither the head of a group nor an entry is an error. -/
def element (l : List Char) : Option Element :=
  if l.head? = some '[' then
    if l.getLast? = some ']' then some (.group (l.drop 1).dropLast) else none
  else if '=' ∈ l ∧ trim (l.takeWhile (· ≠ '=')) ≠ [] then
    some (.entry (trim (l.takeWhile (· ≠ '='))) (trim ((l.dropWhile (· ≠ '=')).drop 1)))
  else none

def read (text : List Char) : Option (List Element) := (significant text).mapM element

/-! The value of the key Exec. -/

inductive Escape where
  | plain
  | escaped

/-- The escapes of all values of this type. -/
def unescape : Transducer Escape Char Char where
  step
    | .plain, c => if c = '\\' then some ([], .escaped) else some ([c], .plain)
    | .escaped, c =>
      if c = 's' then some ([' '], .plain)
      else if c = 'n' then some (['\n'], .plain)
      else if c = 't' then some (['\t'], .plain)
      else if c = 'r' then some (['\r'], .plain)
      else if c = '\\' then some (['\\'], .plain)
      else none
  finish
    | .plain => some []
    | .escaped => none

/-- A part of an argument: a character, or a field code that the launcher replaces. -/
inductive Piece where
  | char (c : Char)
  | code (c : Char)
  deriving DecidableEq

/-- Characters that stand in quotes only. -/
def reserved : List Char := " \t\n\"'\\><~|&;$*?#()`".toList

inductive Mode where
  | outside
  | word (acc : List Piece)
  | percent (acc : List Piece)
  | quoted (acc : List Piece)
  | escaped (acc : List Piece)
  | closed (acc : List Piece)

/-- Arguments are separated by spaces, and quoted as a whole or not at all. -/
def arguments : Transducer Mode Char (List Piece) where
  step
    | .outside, c =>
      if c = ' ' then some ([], .outside)
      else if c = '"' then some ([], .quoted [])
      else if c = '%' then some ([], .percent [])
      else if c ∈ reserved then none
      else some ([], .word [.char c])
    | .word acc, c =>
      if c = ' ' then some ([acc], .outside)
      else if c = '%' then some ([], .percent acc)
      else if c ∈ reserved then none
      else some ([], .word (acc ++ [.char c]))
    | .percent acc, c => some ([], .word (acc ++ [if c = '%' then .char c else .code c]))
    | .quoted acc, c =>
      if c = '"' then some ([], .closed acc)
      else if c = '\\' then some ([], .escaped acc)
      else some ([], .quoted (acc ++ [.char c]))
    | .escaped acc, c =>
      if c = '"' ∨ c = '`' ∨ c = '$' ∨ c = '\\' then some ([], .quoted (acc ++ [.char c])) else none
    | .closed acc, c => if c = ' ' then some ([acc], .outside) else none
  finish
    | .outside => some []
    | .word acc => some [acc]
    | .closed acc => some [acc]
    | .percent _ => none
    | .quoted _ => none
    | .escaped _ => none

def execArguments (value : List Char) : Option (List (List Piece)) :=
  (unescape.run .plain value).bind (arguments.run .outside)

/-! What the entry of an item is to say. -/

def templateKeys : List (List Char) :=
  ["Name".toList, "Exec".toList, "Terminal".toList, "Type".toList, "Icon".toList]

/-- The launch option for a field of the intent, if there is anything in it. -/
def launchOption (key value : String) : List (List Char) :=
  if value = "" then [] else [key.toList ++ value.toList]

/-- The launch options of an item. -/
def launchOptions (item : Item) : List (List Char) :=
  launchOption "--action=" item.launchIntent.action ++
    launchOption "--type=" item.launchIntent.type ++
    launchOption "--uri=" item.launchIntent.uri ++
    launchOption "--package=" item.launchIntent.package ++
    launchOption "--component=" item.launchIntent.component

def command (exePath : List Char) (item : Item) : List (List Char) :=
  exePath :: "launch".toList :: launchOptions item

/-- One group with the keys of the template, and the command of the item. -/
def Faithful (exePath : List Char) (item : Item) (text : List Char) : Prop :=
  ∃ entries : List (List Char × List Char),
    read text = some (.group "Desktop Entry".toList :: entries.map fun e => .entry e.1 e.2) ∧
    (entries.map Prod.fst).Perm templateKeys ∧
    ∃ value, ("Exec".toList, value) ∈ entries ∧
      execArguments value = some ((command exePath item).map (·.map .char))

/-! What the arguments say of the characters that they were read from. -/

/-- A character that stands for itself. -/
def Plain (c : Char) : Prop := c ∉ reserved ∧ c ≠ '%'

instance : DecidablePred Plain := fun c => inferInstanceAs (Decidable (c ∉ reserved ∧ c ≠ '%'))

/-- An argument that is written without quotes and read as it is. -/
def Bare (a : List Piece) : Prop := a ≠ [] ∧ ∀ p ∈ a, ∃ c, p = .char c ∧ Plain c

theorem Bare.concat {a : List Piece} {c : Char} (bare : ∀ p ∈ a, ∃ c, p = .char c ∧ Plain c) (hc : Plain c) :
    Bare (a ++ [.char c]) := by
  refine ⟨by simp, ?_⟩
  intro p hp
  cases List.mem_append.mp hp with
  | inl before => exact bare p before
  | inr last => exact ⟨c, List.mem_singleton.mp last, hc⟩

/-- An argument and the space behind it. -/
def width (a : List Piece) : Nat := a.length + 1

namespace Mode

def owed : Mode → Nat
  | outside => 1
  | word acc => acc.length + 1
  | percent acc => acc.length + 1
  | quoted acc => acc.length
  | escaped acc => acc.length
  | closed acc => acc.length + 1

/-- Nothing but bare characters up to here. -/
def Clean : Mode → Prop
  | outside => True
  | word acc => Bare acc
  | percent _ => False
  | quoted _ => False
  | escaped _ => False
  | closed _ => False

end Mode

theorem unescape_bounded : unescape.Bounded (fun _ => 1) fun _ => 0 where
  step := by
    intro s c out s' h
    cases s with
    | plain =>
      simp only [unescape] at h
      split_ifs at h <;> cases h <;> simp [Transducer.total]
    | escaped =>
      simp only [unescape] at h
      split_ifs at h <;> cases h <;> simp [Transducer.total]
  finish := by
    intro s out h
    cases s with
    | plain => cases h; decide
    | escaped => cases h

theorem arguments_bounded : arguments.Bounded width Mode.owed where
  step := by
    intro s c out s' h
    cases s <;> simp only [arguments] at h <;> split_ifs at h <;> cases h <;>
      simp [Transducer.total, width, Mode.owed]
  finish := by
    intro s out h
    cases s <;> cases h <;> simp [Transducer.total, width, Mode.owed]

theorem arguments_tight : arguments.Tight width Mode.owed Mode.Clean Bare where
  step := by
    intro s c out s' h clean all
    cases s with
    | outside =>
      simp only [arguments] at h
      split_ifs at h with space quote code free
      · cases h; cases all
      · cases h; cases all
      · cases h; cases all
      · cases h
        exact ⟨nofun, Bare.concat (List.forall_mem_nil _) ⟨free, code⟩⟩
    | word acc =>
      simp only [arguments] at h
      split_ifs at h with space code free
      · cases h
        exact ⟨List.forall_mem_singleton.mpr clean, trivial⟩
      · cases h
        simp [Transducer.total, Mode.owed] at all
      · cases h
        exact ⟨nofun, Bare.concat clean.2 ⟨free, code⟩⟩
    | percent acc => exact clean.elim
    | quoted acc => exact clean.elim
    | escaped acc => exact clean.elim
    | closed acc => exact clean.elim
  finish := by
    intro s out h clean all
    cases s with
    | outside => cases h; exact nofun
    | word acc => cases h; exact List.forall_mem_singleton.mpr clean
    | percent acc => exact clean.elim
    | quoted acc => exact clean.elim
    | escaped acc => exact clean.elim
    | closed acc => exact clean.elim

/-- Arguments that need all characters of their text are bare. -/
theorem bare_of_execArguments {value : List Char} {args : List (List Piece)}
    (h : execArguments value = some args) (all : value.length + 1 ≤ Transducer.total width args) :
    ∀ a ∈ args, Bare a := by
  obtain ⟨cs, plain, parsed⟩ := Option.bind_eq_some_iff.mp h
  have short : cs.length ≤ value.length := by
    have bound := unescape_bounded.run plain
    simpa [Transducer.total] using bound
  have bound := arguments_bounded.run parsed
  refine arguments_tight.run arguments_bounded parsed trivial ?_
  change _ = 1 + cs.length
  change _ ≤ 1 + cs.length at bound
  omega

/-! Bare words are read back. -/

def BareWord (w : List Char) : Prop := w ≠ [] ∧ ∀ c ∈ w, Plain c

instance (w : List Char) : Decidable (BareWord w) :=
  @instDecidableAnd _ _ (inferInstanceAs (Decidable (w ≠ []))) (List.decidableBAll Plain w)

theorem bare_map_char {w : List Char} : Bare (w.map .char) ↔ BareWord w := by
  simp [Bare, BareWord]

theorem Plain.ne {c d : Char} (h : Plain c) (hd : d ∈ reserved) : c ≠ d := by
  intro same
  exact h.1 (same ▸ hd)

theorem not_blank_of_plain {c : Char} (h : Plain c) : blank c = false := by
  have space : c ≠ ' ' := h.ne (by decide)
  have tab : c ≠ '\t' := h.ne (by decide)
  simp [blank, space, tab]

/-- Words with a space between them. -/
def joined (w : List Char) : List (List Char) → List Char
  | [] => w
  | v :: vs => w ++ ' ' :: joined v vs

theorem joined_space (w : List Char) (ws : List (List Char)) :
    (w :: ws).flatMap (· ++ [' ']) = joined w ws ++ [' '] := by
  induction ws generalizing w with
  | nil => simp [joined]
  | cons v vs ih => rw [List.flatMap_cons, ih v, joined, List.append_assoc, List.append_assoc]; rfl

theorem mem_joined {w : List Char} {ws : List (List Char)} {c : Char} (hc : c ∈ joined w ws) :
    c = ' ' ∨ ∃ v ∈ w :: ws, c ∈ v := by
  induction ws generalizing w with
  | nil => exact Or.inr ⟨w, List.mem_cons_self, hc⟩
  | cons v vs ih =>
    obtain first | rest := List.mem_append.mp hc
    · exact Or.inr ⟨w, List.mem_cons_self, first⟩
    obtain space | later := List.mem_cons.mp rest
    · exact Or.inl space
    obtain space | ⟨u, hu, there⟩ := ih later
    · exact Or.inl space
    · exact Or.inr ⟨u, List.mem_cons_of_mem w hu, there⟩

theorem unescape_plain {cs : List Char} (h : '\\' ∉ cs) : unescape.run .plain cs = some cs := by
  induction cs with
  | nil => rfl
  | cons c cs ih =>
    obtain ⟨first, later⟩ := not_or.mp (mt List.mem_cons.mpr h)
    have step : unescape.step .plain c = some ([c], .plain) := if_neg (Ne.symm first)
    rw [Transducer.run_cons_of_step step, ih later]
    rfl

theorem arguments_word {w : List Char} (plain : ∀ c ∈ w, Plain c) (acc : List Piece) (rest : List Char) :
    arguments.run (.word acc) (w ++ rest) = arguments.run (.word (acc ++ w.map .char)) rest := by
  induction w generalizing acc with
  | nil => rw [List.map_nil, List.append_nil, List.nil_append]
  | cons c w ih =>
    obtain ⟨first, later⟩ := List.forall_mem_cons.mp plain
    have step : arguments.step (.word acc) c = some ([], .word (acc ++ [.char c])) := by
      simp only [arguments]
      rw [if_neg (first.ne (by decide)), if_neg first.2, if_neg first.1]
    rw [List.cons_append, Transducer.run_cons_of_step step, ih later, List.append_assoc]
    exact Option.map_id'

theorem arguments_outside {w : List Char} (bare : BareWord w) (rest : List Char) :
    arguments.run .outside (w ++ rest) = arguments.run (.word (w.map .char)) rest := by
  obtain ⟨ne, plain⟩ := bare
  cases w with
  | nil => exact absurd rfl ne
  | cons c w =>
    obtain ⟨first, later⟩ := List.forall_mem_cons.mp plain
    have step : arguments.step .outside c = some ([], .word [.char c]) := by
      simp only [arguments]
      rw [if_neg (first.ne (by decide)), if_neg (first.ne (by decide)), if_neg first.2, if_neg first.1]
    rw [List.cons_append, Transducer.run_cons_of_step step, arguments_word later]
    exact Option.map_id'

theorem arguments_joined {w : List Char} {ws : List (List Char)} (bare : ∀ v ∈ w :: ws, BareWord v) :
    arguments.run .outside (joined w ws) = some ((w :: ws).map (·.map .char)) := by
  induction ws generalizing w with
  | nil =>
    have alone := arguments_outside (bare w List.mem_cons_self) []
    rw [List.append_nil] at alone
    exact alone
  | cons v vs ih =>
    obtain ⟨first, later⟩ := List.forall_mem_cons.mp bare
    have space : arguments.step (.word (w.map .char)) ' ' = some ([w.map .char], .outside) := rfl
    rw [joined, arguments_outside first, Transducer.run_cons_of_step space, ih later]
    rfl

theorem trim_joined {w : List Char} {ws : List (List Char)} (bare : ∀ v ∈ w :: ws, BareWord v) :
    trim (joined w ws ++ [' ']) = joined w ws := by
  have right : ∃ cs c, joined w ws = cs ++ [c] ∧ Plain c := by
    induction ws generalizing w with
    | nil =>
      obtain ⟨ne, plain⟩ := bare w List.mem_cons_self
      exact ⟨_, _, (List.dropLast_append_getLast ne).symm, plain _ (List.getLast_mem ne)⟩
    | cons v vs ih =>
      obtain ⟨cs, c, same, hc⟩ := ih (List.forall_mem_cons.mp bare).2
      exact ⟨w ++ ' ' :: cs, c, by rw [joined, same, List.append_assoc]; rfl, hc⟩
  have left : ∃ c cs, joined w ws = c :: cs ∧ Plain c := by
    obtain ⟨ne, plain⟩ := bare w List.mem_cons_self
    obtain ⟨c, cs, rfl⟩ := List.exists_cons_of_ne_nil ne
    cases ws with
    | nil => exact ⟨c, cs, rfl, plain c List.mem_cons_self⟩
    | cons v vs => exact ⟨c, cs ++ ' ' :: joined v vs, rfl, plain c List.mem_cons_self⟩
  obtain ⟨cs, c, ends, hc⟩ := right
  obtain ⟨d, ds, starts, hd⟩ := left
  calc trim (joined w ws ++ [' ']) = ((joined w ws).rdropWhile blank).dropWhile blank := by
        rw [trim, List.rdropWhile_concat_pos _ _ _ rfl]
    _ = (joined w ws).dropWhile blank := by
        rw [ends, List.rdropWhile_concat_neg _ _ _ (by rw [not_blank_of_plain hc]; decide)]
    _ = joined w ws := by
        rw [starts, List.dropWhile_cons_of_neg (by rw [not_blank_of_plain hd]; decide)]

/-- Bare words read back from what is written for them. -/
theorem execArguments_bare {w : List Char} {ws : List (List Char)} (bare : ∀ v ∈ w :: ws, BareWord v) :
    execArguments (trim ((w :: ws).flatMap (· ++ [' ']))) = some ((w :: ws).map (·.map .char)) := by
  have straight : '\\' ∉ joined w ws := by
    intro there
    obtain space | ⟨v, hv, hc⟩ := mem_joined there
    · exact absurd space (by decide)
    · exact ((bare v hv).2 _ hc).1 (by decide)
  rw [joined_space, trim_joined bare, execArguments, unescape_plain straight, Option.bind_some,
    arguments_joined bare]

/-! The lines of the file. -/

def firstLine (value : List Char) : List Char := value.takeWhile (· ≠ '\n')

/-- The lines that a value goes on with. -/
def further (value : List Char) : List (List Char) := (value.splitOn '\n').tail

def shown (lines : List (List Char)) : List (List Char) := lines.filter fun l => !ignored l

theorem shown_eq_nil {lines : List (List Char)} : shown lines = [] ↔ ∀ l ∈ lines, ignored l = true := by
  simp [shown]

theorem ne_of_free {c : Char} {l : List Char} (free : c ∉ l) : ∀ x ∈ l, decide (x ≠ c) = true := by
  intro x hx
  exact decide_eq_true (ne_of_mem_of_not_mem hx free)

theorem splitOn_line {key : List Char} (plain : '\n' ∉ key) (value : List Char) :
    (key ++ value).splitOn '\n' = (key ++ firstLine value) :: further value := by
  by_cases cut : '\n' ∈ value
  · obtain ⟨front, behind, rfl, free⟩ := List.eq_append_cons_of_mem cut
    have first : firstLine (front ++ '\n' :: behind) = front := by
      rw [firstLine, List.takeWhile_append_of_pos (ne_of_free free)]
      exact List.append_nil front
    have all : '\n' ∉ key ++ front := by simp [plain, free]
    rw [first, further, List.splitOn_append_cons_self_of_not_mem free, ← List.append_assoc,
      List.splitOn_append_cons_self_of_not_mem all, List.tail_cons]
  · have first : firstLine value = value :=
      List.takeWhile_eq_self_iff.mpr (ne_of_free cut)
    have all : '\n' ∉ key ++ value := by simp [plain, cut]
    rw [first, further, List.splitOn_eq_singleton all, List.splitOn_eq_singleton cut, List.tail_cons]

theorem significant_append (a b : List Char) :
    significant (a ++ '\n' :: b) = significant a ++ significant b := by
  rw [significant, List.splitOn_append_cons_self, List.filter_append, significant, significant]

theorem significant_line {key : List Char} (plain : '\n' ∉ key) {value : List Char}
    (counts : ignored (key ++ firstLine value) = false) :
    significant (key ++ value) = (key ++ firstLine value) :: shown (further value) := by
  rw [significant, splitOn_line plain, List.filter_cons_of_pos (by rw [counts]; rfl), shown]

theorem element_entry (key : List Char) (free : '=' ∉ key) (named : trim key ≠ []) (head : key.head? ≠ some '[')
    (value : List Char) : element (key ++ '=' :: value) = some (.entry (trim key) (trim value)) := by
  have front : (key ++ '=' :: value).takeWhile (· ≠ '=') = key := by
    rw [List.takeWhile_append_of_pos (ne_of_free free)]
    exact List.append_nil key
  have behind : (key ++ '=' :: value).dropWhile (· ≠ '=') = '=' :: value := by
    rw [List.dropWhile_append_of_pos (ne_of_free free)]
    rfl
  have entry : (key ++ '=' :: value).head? ≠ some '[' := by
    cases key with
    | nil => exact absurd rfl named
    | cons c key => exact head
  rw [element, if_neg entry, front, behind, if_pos ⟨by simp, named⟩]
  rfl

theorem length_trim_le (l : List Char) : (trim l).length ≤ l.length :=
  ((List.dropWhile_suffix blank).length_le).trans (List.rdropWhile_prefix blank l).length_le

/-- The space at the end of the value is lost. -/
theorem length_trim_firstLine (cs : List Char) : (trim (firstLine (cs ++ [' ']))).length ≤ cs.length := by
  rw [firstLine, List.takeWhile_append]
  split
  · have last : [' '].takeWhile (· ≠ '\n') = [' '] := rfl
    rw [last, trim, List.rdropWhile_concat_pos _ _ _ rfl]
    exact length_trim_le cs
  · exact (length_trim_le _).trans (List.takeWhile_prefix _).length_le

/-! The desktop file of an item. -/

section

variable (path_ exePath : List Char) (item : Item)

/-- The path of the icon, as it is written down. -/
def iconPath : List Char := pathForItemIcon path_ (cleanPackageName item.package.toList)

/-- What must be true of the texts: nothing in the command needs quotes or escapes, and a value that
goes on in further lines does so in comments. -/
structure Harmless : Prop where
  program : BareWord exePath
  intent : ∀ field ∈ [item.launchIntent.action, item.launchIntent.type, item.launchIntent.uri,
    item.launchIntent.package, item.launchIntent.component], ∀ c ∈ field.toList, Plain c
  name : ∀ l ∈ further item.name.toList, ignored l = true
  icon : ∀ l ∈ further (iconPath path_ item), ignored l = true

theorem option_eq (key value : String) : option key value = (launchOption key value).flatMap (· ++ [' ']) := by
  unfold option launchOption
  split
  · rfl
  · simp

theorem exec_eq : exec exePath item = (command exePath item).flatMap (· ++ [' ']) := by
  simp only [exec, command, launchOptions, option_eq, List.flatMap_cons, List.flatMap_append,
    List.append_assoc]
  rfl

theorem bare_launchOption {key value : String} (bare : BareWord key.toList) :
    (∀ w ∈ launchOption key value, BareWord w) ↔ ∀ c ∈ value.toList, Plain c := by
  unfold launchOption
  split
  · rename_i empty
    simp [empty]
  · obtain ⟨ne, plain⟩ := bare
    rw [List.forall_mem_singleton, BareWord, List.forall_mem_append]
    constructor
    · intro h
      exact h.2.2
    · intro h
      exact ⟨List.append_ne_nil_of_left_ne_nil ne _, plain, h⟩

/-- The keys of the options are bare, and so is `launch`. -/
theorem bare_command : (∀ w ∈ command exePath item, BareWord w) ↔
    BareWord exePath ∧ ∀ field ∈ [item.launchIntent.action, item.launchIntent.type,
      item.launchIntent.uri, item.launchIntent.package, item.launchIntent.component],
      ∀ c ∈ field.toList, Plain c := by
  have launch : BareWord "launch".toList := by decide
  have action : BareWord "--action=".toList := by decide
  have type : BareWord "--type=".toList := by decide
  have uri : BareWord "--uri=".toList := by decide
  have package : BareWord "--package=".toList := by decide
  have component : BareWord "--component=".toList := by decide
  simp only [command, launchOptions, List.forall_mem_cons, List.forall_mem_append,
    bare_launchOption action, bare_launchOption type, bare_launchOption uri,
    bare_launchOption package, bare_launchOption component, launch, true_and, and_assoc,
    List.not_mem_nil, false_imp_iff, implies_true, and_true]

theorem significant_desktopItem : significant (desktopItem path_ exePath item) =
    "[Desktop Entry]".toList ::
      ("Name=".toList ++ firstLine item.name.toList) :: (shown (further item.name.toList) ++
      ("Exec=".toList ++ firstLine (exec exePath item)) :: (shown (further (exec exePath item)) ++
      "Terminal=false".toList :: "Type=Application".toList ::
      ("Icon=".toList ++ firstLine (iconPath path_ item)) :: shown (further (iconPath path_ item)))) := by
  have group : significant "[Desktop Entry]".toList = ["[Desktop Entry]".toList] := by decide
  have terminal : significant "Terminal=false".toList = ["Terminal=false".toList] := by decide
  have type : significant "Type=Application".toList = ["Type=Application".toList] := by decide
  have behind : significant [] = [] := by decide
  have name : significant ("Name=".toList ++ item.name.toList) =
      ("Name=".toList ++ firstLine item.name.toList) :: shown (further item.name.toList) :=
    significant_line (by decide) rfl
  have command : significant ("Exec=".toList ++ exec exePath item) =
      ("Exec=".toList ++ firstLine (exec exePath item)) :: shown (further (exec exePath item)) :=
    significant_line (by decide) rfl
  have icon : significant ("Icon=".toList ++ iconPath path_ item) =
      ("Icon=".toList ++ firstLine (iconPath path_ item)) :: shown (further (iconPath path_ item)) :=
    significant_line (by decide) rfl
  unfold desktopItem
  rw [significant_append, group, significant_append, name, significant_append, command,
    significant_append, terminal, significant_append, type, ← iconPath, significant_append, icon,
    behind, List.append_nil]
  simp only [List.cons_append, List.nil_append]

/-- What is read when no further line counts. -/
def entries : List (List Char × List Char) :=
  [("Name".toList, trim (firstLine item.name.toList)),
    ("Exec".toList, trim (firstLine (exec exePath item))),
    ("Terminal".toList, "false".toList), ("Type".toList, "Application".toList),
    ("Icon".toList, trim (firstLine (iconPath path_ item)))]

variable {path_ exePath item}

theorem read_of_harmless (name : shown (further item.name.toList) = [])
    (command : shown (further (exec exePath item)) = [])
    (icon : shown (further (iconPath path_ item)) = []) :
    read (desktopItem path_ exePath item) =
      some (.group "Desktop Entry".toList :: (entries path_ exePath item).map fun e => .entry e.1 e.2) := by
  have group : element "[Desktop Entry]".toList = some (.group "Desktop Entry".toList) := by decide
  have first : element ("Name=".toList ++ firstLine item.name.toList) =
      some (.entry "Name".toList (trim (firstLine item.name.toList))) :=
    element_entry "Name".toList (by decide) (by decide) (by decide) _
  have second : element ("Exec=".toList ++ firstLine (exec exePath item)) =
      some (.entry "Exec".toList (trim (firstLine (exec exePath item)))) :=
    element_entry "Exec".toList (by decide) (by decide) (by decide) _
  have third : element "Terminal=false".toList = some (.entry "Terminal".toList "false".toList) := by decide
  have fourth : element "Type=Application".toList = some (.entry "Type".toList "Application".toList) := by
    decide
  have fifth : element ("Icon=".toList ++ firstLine (iconPath path_ item)) =
      some (.entry "Icon".toList (trim (firstLine (iconPath path_ item)))) :=
    element_entry "Icon".toList (by decide) (by decide) (by decide) _
  rw [read, significant_desktopItem, name, command, icon]
  simp only [List.nil_append, List.mapM_cons, List.mapM_nil, group, first, second, third, fourth, fifth]
  rfl

theorem execArguments_of_bare (bare : ∀ w ∈ command exePath item, BareWord w) :
    further (exec exePath item) = [] ∧ execArguments (trim (firstLine (exec exePath item))) =
      some ((command exePath item).map (·.map .char)) := by
  have whole : '\n' ∉ exec exePath item := by
    intro there
    rw [exec_eq, List.mem_flatMap] at there
    obtain ⟨w, hw, hc⟩ := there
    cases List.mem_append.mp hc with
    | inl inside => exact ((bare w hw).2 _ inside).1 (by decide)
    | inr space => exact absurd (List.mem_singleton.mp space) (by decide)
  have first : firstLine (exec exePath item) = exec exePath item :=
    List.takeWhile_eq_self_iff.mpr (ne_of_free whole)
  refine ⟨by rw [further, List.splitOn_eq_singleton whole, List.tail_cons], ?_⟩
  rw [first, exec_eq]
  exact execArguments_bare bare

/-- All of the text of the command is needed for its arguments. -/
theorem bare_of_firstLine
    (h : execArguments (trim (firstLine (exec exePath item))) =
      some ((command exePath item).map (·.map .char))) : ∀ w ∈ command exePath item, BareWord w := by
  have width_eq : Transducer.total width ((command exePath item).map (·.map .char)) =
      (exec exePath item).length := by
    rw [exec_eq, Transducer.total, List.map_map, List.length_flatMap]
    congr 2
    funext w
    simp [width]
  have short : (trim (firstLine (exec exePath item))).length + 1 ≤ (exec exePath item).length := by
    rw [exec_eq, command, joined_space, List.length_append]
    exact Nat.succ_le_succ (length_trim_firstLine _)
  have bare := bare_of_execArguments h (width_eq ▸ short)
  intro w hw
  exact bare_map_char.mp (bare _ (List.mem_map_of_mem hw))

/-- The file has the structure of the template, and says what the item says, if and only if the texts
are harmless. -/
theorem desktop_item_faithful_iff (path_ exePath : List Char) (item : Item) :
    Faithful exePath item (desktopItem path_ exePath item) ↔ Harmless path_ exePath item := by
  constructor
  · intro h
    obtain ⟨es, hread, keys, value, hvalue, parsed⟩ := h
    have count := length_of_mapM hread
    rw [significant_desktopItem] at count
    have five : es.length = 5 := by
      rw [← List.length_map (f := Prod.fst)]
      exact keys.length_eq
    simp only [List.length_cons, List.length_append, List.length_map, five] at count
    have name : shown (further item.name.toList) = [] := List.eq_nil_of_length_eq_zero (by omega)
    have command : shown (further (exec exePath item)) = [] := List.eq_nil_of_length_eq_zero (by omega)
    have icon : shown (further (iconPath path_ item)) = [] := List.eq_nil_of_length_eq_zero (by omega)
    rw [read_of_harmless name command icon] at hread
    have same : es = entries path_ exePath item := by
      refine (List.map_injective_iff.mpr ?_ (List.cons.inj (Option.some.inj hread)).2).symm
      intro e e' he
      exact Prod.ext (Element.entry.inj he).1 (Element.entry.inj he).2
    have exec_value : value = trim (firstLine (exec exePath item)) := by
      rw [same] at hvalue
      simpa [entries] using hvalue
    rw [exec_value] at parsed
    obtain ⟨program, intent⟩ := (bare_command exePath item).mp (bare_of_firstLine parsed)
    exact ⟨program, intent, shown_eq_nil.mp name, shown_eq_nil.mp icon⟩
  · intro h
    have bare := (bare_command exePath item).mpr ⟨h.program, h.intent⟩
    obtain ⟨whole, parsed⟩ := execArguments_of_bare bare
    refine ⟨entries path_ exePath item, ?_, List.Perm.refl _, _, ?_, parsed⟩
    · exact read_of_harmless (shown_eq_nil.mpr h.name) (by rw [whole]; rfl) (shown_eq_nil.mpr h.icon)
    · exact List.mem_cons_of_mem _ List.mem_cons_self

end

/-- A name in two lines, the second one an entry by itself. -/
def renamed : Item := { Item.ofPackage "a.b" with name := "Game\nExec=/bin/sh" }

theorem second_exec_read : ¬ ∀ (path_ exePath : List Char) (item : Item),
    Faithful exePath item (desktopItem path_ exePath item) := by
  intro h
  obtain ⟨es, hread, keys, -⟩ := h [] snapExePath renamed
  have count : (significant (desktopItem [] snapExePath renamed)).length = 7 := by
    rw [significant_desktopItem]
    decide
  have all := length_of_mapM hread
  have five := keys.length_eq
  rw [count, List.length_cons, List.length_map] at all
  rw [List.length_map] at five
  rw [five] at all
  exact absurd all (by decide)

end Anbox.Application.DesktopEntry
